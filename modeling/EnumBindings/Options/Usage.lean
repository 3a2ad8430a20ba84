import EnumBindings.Text.Basic

/-!
# Help on the command line

The texts that the command line shows about itself.
-/

namespace EnumBindings.Usage

/-- The help on the options. -/
def help : Text :=
  Text.ofLines [
    "Refresh the SDK protobufs and regenerate RequestType.java and Status.java",
    "",
    "Usage: update-protobufs [OPTIONS] <BRANCH>",
    "",
    "Arguments:",
    "  <BRANCH>  Branch of the protobufs repository to check out",
    "",
    "Options:",
    "      --repo-dir <REPO_DIR>        Local checkout of the protobufs repository (cloned when " ++
      "missing) [default: hedera-protos-git]",
    "      --remote <REMOTE>            Remote the checkout is cloned from [default: " ++
      "https://github.com/hashgraph/hedera-protobufs.git]",
    "      --sdk-main <SDK_MAIN>        The SDK's `src/main` directory [default: ../sdk/src/main]",
    "      --premade-dir <PREMADE_DIR>  Directory with `<Class>-<n>.txt` fragments overriding the " ++
      "built-in boilerplate",
    "      --skip-fetch                 Use the checkout as it is, without cloning, switching or " ++
      "pulling",
    "      --keep <KEEP>                File names in the proto output directory that are never " ++
      "removed [default: TransactionList.proto]",
    "  -h, --help                       Print help",
    "  -V, --version                    Print version"]

/-- The name of the program and its version. -/
def version : Text :=
  Text.ofLines ["update-protobufs 0.1.0"]

end EnumBindings.Usage
