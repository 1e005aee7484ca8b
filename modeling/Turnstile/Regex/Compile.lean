import Turnstile.Regex.Size

/-!
Patterns that can be used. A pattern has to be well formed, and the automata it is compiled to have to
stay within a limit.
-/

namespace Turnstile

/-- Which patterns are small enough. The library that compiles a pattern settles that by counting the
states it makes, some of them shared by way of a table of hashes; so this is left open, but for the
pattern of the empty text. -/
class SizeLimit where
  fits : List Char → Bool
  fits_ends : fits ['^', '$'] = true

namespace Regex

/-- Why a pattern cannot be used. -/
inductive CompileError where
  | malformed
  | tooLarge
  deriving DecidableEq, Repr

/-- What is said of a pattern that cannot be used. -/
def CompileError.message : CompileError → String
  | .malformed => "regex parse error:"
  | .tooLarge => "Compiled regex exceeds size limit of " ++ toString byteLimit ++ " bytes."

/-- The expression that a pattern stands for. -/
def compile [SizeLimit] (cs : List Char) : Except CompileError Regex :=
  match (Pattern.read? cs).bind Pattern.toRegex? with
  | none => .error .malformed
  | some r => if SizeLimit.fits cs then .ok r else .error .tooLarge

end Regex

/-- Patterns are small enough by the estimate. -/
instance SizeLimit.estimated : SizeLimit where
  fits cs := ((Pattern.read? cs).bind Pattern.toRegex?).all Regex.isSmall
  fits_ends := by decide +kernel

end Turnstile
