import NamedParams.Regex.Match
import NamedParams.Regex.Meaning
import NamedParams.Regex.Reading
import NamedParams.Regex.Size

/-! Regular expressions without back references, in linear time. -/

namespace NamedParams.Regex

/-- The expression that a text writes, within a limit on its compiled size. -/
def compile (text : String) (limit : Nat) : Except Fault Expr := do
  let tree ← Tree.read text.toList
  let (expr, _) ← tree.expr Flags.initial
  expr.limit limit

end NamedParams.Regex
