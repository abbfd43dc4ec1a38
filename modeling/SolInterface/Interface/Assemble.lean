import SolInterface.Interface.Getter
import SolInterface.Interface.Policy
import SolInterface.Interface.Substitution
import SolInterface.Source.Doc
import SolInterface.Text.Surrogate

/-!
The text of an interface: header, copyright, imports, the contract's documentation, the declaration
line, and then the events, errors, getters and functions that the recipe lets in.
-/
namespace SolInterface.Interface
open Text

/-- What stands at the top of every interface. -/
structure Header where
  license : Text := "MIT"
  pragma : Text := "^0.8.20"
  deriving DecidableEq, Repr

def Header.text (h : Header) : Text :=
  Text.cat ["// SPDX-License-Identifier: ", h.license, "\npragma solidity ", h.pragma, ";\n\n"]

/-- The header can be encoded. All else in an interface comes from text that was decoded. -/
def Header.isWhole (h : Header) : Bool := h.license.isWhole && h.pragma.isWhole

def indent : Text := "    "

/-- The documentation of a member, on lines of its own. -/
def docLines (doc : Text) : Text := if doc.isEmpty then [] else Doc.format indent doc ++ ['\n']

/-- A group of members and an empty line after it; nothing for an empty group. -/
def group (members : List Text) : Text := if members.isEmpty then [] else members.flatten ++ ['\n']

def copyrightText (notice : Text) : Text :=
  if notice.isEmpty then [] else Text.cat ["// ", notice, "\n\n"]

def importText (path : Text) : Text := Text.cat ["import \"", path, "\";\n"]

def contractDoc (doc : Text) : Text := if doc.isEmpty then [] else Doc.format [] doc ++ ['\n']

/-- An event or error under its keyword. -/
def noticeText (types : Renaming) (keyword : Text) (n : Notice) : Text :=
  Text.cat [docLines n.doc, indent, keyword, " ", n.name, "(", types.applyTypes n.parameters,
    ");\n"]

/-- The getters of the variables that have one, each with its documentation. -/
def getters (r : Recipe) (candidates : List Variable) : List Text :=
  (candidates.filter r.wantsGetter).filterMap fun v =>
    v.getter?.map fun line => docLines v.doc ++ r.replace.applyTypes line

def mutabilityText : Mutability → Text
  | .nonpayable => []
  | m => ' ' :: m.keyword

def returnsText (types : Text) : Text :=
  if types.isEmpty then [] else Text.cat [" returns (", types, ")"]

/-- A function as an interface declares it: always external. -/
def functionText (types : Renaming) (f : Function) : Text :=
  Text.cat [docLines f.doc, indent, "function ", f.name, "(", types.applyTypes f.parameters,
    ") external", mutabilityText f.mutability, returnsText (types.applyTypes f.returns), ";\n"]

/-- The text of the interface. -/
def assemble (header : Header) (r : Recipe) (s : Source) : Text :=
  Text.cat [
    header.text,
    copyrightText r.copyright,
    group (r.imports.map importText),
    contractDoc s.contract.doc,
    "interface I", s.contract.name, r.basesClause s.contract.bases, " \x7b\n\n",
    group ((s.events.filter r.keepsNotice).map (noticeText r.replace "event")),
    group ((s.errors.filter r.keepsNotice).map (noticeText r.replace "error")),
    group ((getters r s.stateVariables).map (· ++ ['\n'])),
    ((s.functions.filter r.keepsFunction).map (functionText r.replace)).flatten,
    "\x7d\n"]

end SolInterface.Interface
