import EnumBindings.Text.Basic

/-!
# Boilerplate of the generated enums

The fixed fragments of the two enums that are generated, numbered by their places among the pieces
of the file. Between them stand the sections.
-/

namespace EnumBindings.Boilerplate

/-- The head of `RequestType`, up to its constants. -/
def requestTypeOpening : Text :=
  Text.ofLines [
    "package com.hedera.hashgraph.sdk;",
    "",
    "import com.hedera.hashgraph.sdk.proto.HederaFunctionality;",
    "",
    "/**",
    " * Possible Transaction Types.",
    " * <p>",
    " * This file is generated by `update-protobufs`; edit the premade fragments",
    " * instead of this file.",
    " */",
    "public enum RequestType \x7b"]

/-- What stands in `RequestType` between its constants and the cases of `valueOf`. -/
def requestTypeLookup : Text :=
  Text.ofLines [
    "    final HederaFunctionality code;",
    "",
    "    /**",
    "     * Constructor.",
    "     *",
    "     * @param code                      the code",
    "     */",
    "    RequestType(HederaFunctionality code) \x7b",
    "        this.code = code;",
    "    \x7d",
    "",
    "    /**",
    "     * What type of request.",
    "     *",
    "     * @param code                      the code",
    "     * @return                          the request type",
    "     */",
    "    static RequestType valueOf(HederaFunctionality code) \x7b",
    "        switch (code) \x7b"]

/-- What stands in `RequestType` between the cases of `valueOf` and those of `toString`. -/
def requestTypeNaming : Text :=
  Text.ofLines [
    "            default:",
    "                throw new IllegalStateException(\"(BUG) unhandled HederaFunctionality\");",
    "        \x7d",
    "    \x7d",
    "",
    "    @Override",
    "    public String toString() \x7b",
    "        switch (this) \x7b"]

/-- The end of `RequestType`, from the cases of `toString` on. -/
def requestTypeClosing : Text :=
  Text.ofLines [
    "            default:",
    "                return \"<UNKNOWN>\";",
    "        \x7d",
    "    \x7d",
    "\x7d"]

/-- The head of `Status`, up to its constants. -/
def statusOpening : Text :=
  Text.ofLines [
    "package com.hedera.hashgraph.sdk;",
    "",
    "import com.hedera.hashgraph.sdk.proto.ResponseCodeEnum;",
    "",
    "import java.util.Objects;",
    "",
    "/**",
    " * Returned in \x7b@link TransactionReceipt\x7d, \x7b@link PrecheckStatusException\x7d",
    " * and \x7b@link ReceiptStatusException\x7d.",
    " * <p>",
    " * This file is generated by `update-protobufs`; edit the premade fragments",
    " * instead of this file.",
    " */",
    "public enum Status \x7b"]

/-- What stands in `Status` between its constants and the cases of `valueOf`. -/
def statusLookup : Text :=
  Text.ofLines [
    "    final ResponseCodeEnum code;",
    "",
    "    /**",
    "     * Constructor.",
    "     *",
    "     * @param responseCode              the response code",
    "     */",
    "    Status(ResponseCodeEnum responseCode) \x7b",
    "        this.code = responseCode;",
    "    \x7d",
    "",
    "    /**",
    "     * Returns the status represented by the response code.",
    "     *",
    "     * @param code                      the response code",
    "     * @return                          the status",
    "     */",
    "    static Status valueOf(ResponseCodeEnum code) \x7b",
    "        switch (code) \x7b"]

/-- The end of `Status`, from the cases of `valueOf` on. -/
def statusClosing : Text :=
  Text.ofLines [
    "            case UNRECOGNIZED:",
    "                // NOTE: Protobuf deserialization will not give us the code on the wire",
    "                throw new IllegalArgumentException(",
    "                    \"network returned unrecognized response code; your SDK may be out of date\");",
    "",
    "            default:",
    "                throw new IllegalStateException(\"(BUG) unhandled response code \" + Objects.requireNonNull(code));",
    "        \x7d",
    "    \x7d",
    "",
    "    @Override",
    "    public String toString() \x7b",
    "        return code.name();",
    "    \x7d",
    "\x7d"]

/-- The fragment of a class with a number, if there is one. -/
def fragment? (className : Text) (number : Nat) : Option Text :=
  if className = "RequestType".toList then
    match number with
    | 0 => some requestTypeOpening
    | 2 => some requestTypeLookup
    | 4 => some requestTypeNaming
    | 6 => some requestTypeClosing
    | _ => none
  else if className = "Status".toList then
    match number with
    | 0 => some statusOpening
    | 2 => some statusLookup
    | 4 => some statusClosing
    | _ => none
  else none

end EnumBindings.Boilerplate
