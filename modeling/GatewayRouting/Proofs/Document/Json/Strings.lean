import GatewayRouting.Document.Json.Reader
import GatewayRouting.Document.Json.Writer

/-!
Strings inside a JSON document: every text is read back from how it is written between quotes.
-/

set_option autoImplicit false

namespace GatewayRouting.Json

theorem hexUnit_hexDigits : ∀ n < 0x20, hexUnit '0' '0' (hexDigit (n / 16)) (hexDigit (n % 16)) = some n := by
  decide

/-- Control characters without a letter of their own are written by their number. -/
theorem readUnits_numbered {c : Char} (control : c.toNat < 0x20) (cs : List Char) :
    readUnits ('\\' :: 'u' :: '0' :: '0' :: hexDigit (c.toNat / 16) :: hexDigit (c.toNat % 16) :: cs) =
      (readUnits cs).map (consUnit (.char c)) := by
  have noSurrogate : ¬(0xD800 ≤ c.toNat && c.toNat < 0xE000) = true := by
    rw [Bool.and_eq_true, decide_eq_true_eq, decide_eq_true_eq]
    omega
  have unit : Unit16.ofNat c.toNat = .char c := by
    rw [Unit16.ofNat, if_neg noSurrogate, Char.ofNat_toNat]
  rw [readUnits, hexUnit_hexDigits c.toNat control]
  exact congrArg (fun u => (readUnits cs).map (consUnit u)) unit

theorem readUnits_visible {c : Char} (noQuote : c ≠ '"') (noSlash : c ≠ '\\') (visible : ¬c.toNat < 0x20)
    (cs : List Char) : readUnits (c :: cs) = (readUnits cs).map (consUnit (.char c)) := by
  have plain : (decide (c = '\\') || decide (c.toNat < 0x20)) = false := by
    rw [decide_eq_false noSlash, decide_eq_false visible]
    rfl
  rw [readUnits.eq_5 c cs noQuote (fun _ _ _ _ _ slash _ => noSlash slash) fun _ _ slash _ => noSlash slash, plain]
  rfl

theorem readUnits_writtenChar (c : Char) (cs : List Char) :
    readUnits (writtenChar c ++ cs) = (readUnits cs).map (consUnit (.char c)) := by
  unfold writtenChar
  split
  case h_8 noQuote noSlash _ _ _ _ _ =>
    split
    · rename_i control
      exact readUnits_numbered control cs
    · rename_i visible
      exact readUnits_visible noQuote noSlash visible cs
  all_goals rfl

theorem readUnits_written (cs rest : List Char) :
    readUnits (cs.flatMap writtenChar ++ '"' :: rest) = some (cs.map .char, rest) := by
  induction cs with
  | nil => rfl
  | cons c cs ih =>
    rw [List.flatMap_cons, List.append_assoc, readUnits_writtenChar, ih]
    rfl

theorem joinUnits_chars (cs : List Char) : joinUnits (cs.map .char) = some cs := by
  induction cs with
  | nil => rfl
  | cons c cs ih =>
    rw [List.map_cons, joinUnits, ih]
    rfl

/-- What is written after the opening quote is read up to the closing one. -/
theorem readString_written (s : String) (rest : List Char) :
    readString (s.toList.flatMap writtenChar ++ '"' :: rest) = some (some s.toList, rest) := by
  rw [readString, readUnits_written]
  exact congrArg (fun cs => some (cs, rest)) (joinUnits_chars s.toList)

end GatewayRouting.Json
