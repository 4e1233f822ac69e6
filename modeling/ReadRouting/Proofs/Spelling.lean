import ReadRouting.Proofs.Checks
import ReadRouting.Proofs.Numeral
import ReadRouting.Proofs.Warning

set_option autoImplicit false
set_option relaxedAutoImplicit false

/-!
# The two spellings of an address

An address is given as the pair of its host and its port, or as one text with a colon between them.
Both spellings stand for the same address as long as the port is positive. A port that is not
positive is refused in a pair, but read from a text, and an address that was read with such a port
is refused when it is checked once more.

## Main definitions

* `ReadRouting.Address.spelled` — the address as one text.

## Main results

* `ReadRouting.Address.parse_of_append` — what is read from a text with a colon.
* `ReadRouting.Address.parse_spelled_of_head?_ne` — the text is read as the address that it spells,
  unless its host begins with a bracket.
* `ReadRouting.Address.check_spelled` — when the two spellings are accepted alike.
-/

namespace ReadRouting.Address

/-- The address as one text. -/
def spelled (a : Address) : String := a.host ++ ":" ++ toString a.port.value

variable {s : String} {a : Address} {host port : List Char}

/-! ## Reading a text with a port -/

/-- A text with a colon is a host and a port, which must be a numeral. -/
theorem parse_of_append (hport : ':' ∉ port) (hs : s.toList = host ++ ':' :: port) :
    parse s =
      match Text.readInteger? (String.ofList port) with
      | some n => .ok (ofParts host n)
      | none => .error .illFormed := by
  have hsplit := splitLast_append host hport
  cases hnumeral : Text.readInteger? (String.ofList port) <;> simp [parse, hs, hsplit, hnumeral]

/-- What is read from a text with the numeral of an integer for a port. -/
lemma parse_of_toString {p : Int} (hp : p.natAbs < Nat.pow 10 Text.maxDigits)
    (hs : s.toList = host ++ ':' :: (toString p).toList) : parse s = .ok (ofParts host p) := by
  have hcolon : ':' ∉ (toString p).toList := Text.not_mem_toString (by decide) (by decide) p
  rw [parse_of_append hcolon hs, String.ofList_toList, Text.readInteger?_toString hp]

/-- A host that begins with no bracket is taken as it is. -/
lemma unbracket_of_head?_ne (h : host.head? ≠ some '[') : unbracket host = host := by
  unfold unbracket
  split
  · exact absurd rfl h
  · rfl

/-- The text of an address is read as the address if the host begins with no bracket. -/
theorem parse_spelled_of_head?_ne (hhost : a.host.toList.head? ≠ some '[') (hport : a.IsWritable) :
    parse a.spelled = .ok ⟨a.host, ⟨a.port.value, false⟩⟩ := by
  have hs : a.spelled.toList = a.host.toList ++ ':' :: (toString a.port.value).toList := by
    simp [spelled]
  rw [parse_of_toString hport hs, ofParts, unbracket_of_head?_ne hhost, String.ofList_toList]

/-- So it is for a host without any opening bracket. -/
lemma parse_spelled (hhost : '[' ∉ a.host.toList) (hport : a.IsWritable) :
    parse a.spelled = .ok ⟨a.host, ⟨a.port.value, false⟩⟩ :=
  parse_spelled_of_head?_ne (fun hhead => hhost (List.mem_of_mem_head? hhead)) hport

/-! ## Both spellings -/

/-- **The two spellings of an address.** Take any host without an opening bracket and any integer
that can be written for a port. As one text they are always accepted, and stand for that host and
that port. As a pair they are accepted exactly if the port is positive, and then stand for the same;
otherwise the port is refused. So of the addresses that are accepted, in whatever form they were
given, those with a positive port are accepted once more, as what they are, and no others; and only
a text can have given one of the others. -/
theorem check_spelled (option : Value) (hhost : '[' ∉ a.host.toList) (hport : a.IsWritable) :
    Checked.address option (.text a.spelled) = .ok ⟨a.host, ⟨a.port.value, false⟩⟩ ∧
      (1 ≤ a.port.value → Checked.address option a.toValue = .ok a) ∧
      (a.port.value < 1 →
        Checked.address option a.toValue = .error (.refused (.badOption option .notPositive))) ∧
      ∀ v b, Checked.address option v = .ok b →
        (Checked.address option b.toValue = .ok b ↔ 1 ≤ b.port.value) ∧
        ((∀ s, v ≠ .text s) → 1 ≤ b.port.value) := by
  refine ⟨parse_spelled hhost hport, fun hpositive => ?_, fun hnot => ?_, fun v b hb => ⟨?_, ?_⟩⟩
  · rw [Checked.address_toValue, if_pos hpositive]
  · rw [Checked.address_toValue, if_neg (by omega)]
  · rw [Checked.address_toValue]
    by_cases hpositive : 1 ≤ b.port.value
    · rw [if_pos hpositive]
      exact ⟨fun _ => hpositive, fun _ => rfl⟩
    · rw [if_neg hpositive]
      exact ⟨nofun, fun h => absurd h hpositive⟩
  · exact Checked.one_le_of_address hb

/-- Port zero is read from a text, but refused in a pair; and so is the address that was read. -/
theorem check_spelled_port_zero :
    let a : Address := ⟨"a", ⟨0, false⟩⟩
    let option : Value := .text "address"
    '[' ∉ a.host.toList ∧ a.IsWritable ∧ a.spelled = "a:0" ∧
      Checked.address option (.text a.spelled) = .ok a ∧
      Checked.address option a.toValue = .error (.refused (.badOption option .notPositive)) := by
  intro a option
  have hhost : '[' ∉ a.host.toList := by decide
  have hport : a.IsWritable := isWritable_of_lt (by decide)
  obtain ⟨htext, -, hpair, -⟩ := check_spelled option hhost hport
  exact ⟨hhost, hport, rfl, htext, hpair (by decide)⟩

end ReadRouting.Address
