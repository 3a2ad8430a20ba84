import EnumBindings.Session

/-!
# The checkout of the protobufs

The protobufs come from a repository, of which a checkout is kept. Before each update it is cloned
if it is missing, switched to the wanted branch and brought up to date.
-/

namespace EnumBindings

/-- Clones the repository unless the checkout is there, switches it to a branch and pulls. -/
def ensureCheckout (host : Host) (remote : Text) (checkout : Path) (branch : Text) :
    Action Unit := do
  let session ← get
  let git := "git".toList
  unless session.isDirectory checkout do
    runCommand host git ["clone".toList, remote, checkout] none
  runCommand host git ["switch".toList, branch] (some checkout)
  runCommand host git ["pull".toList, "--rebase".toList] (some checkout)

end EnumBindings
