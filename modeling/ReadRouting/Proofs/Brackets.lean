import ReadRouting.Proofs.Spelling

set_option autoImplicit false
set_option relaxedAutoImplicit false

/-!
# Hosts in brackets, and addresses without a port

Any host can be written in brackets, with a port after them: it is read back whatever characters it
has. Without brackets it is read back unless it begins with one. So an address can be told from each
of these spellings, and no two addresses share one.

Without a port the default one is read, but not for a host in brackets that has a colon in it, as a
numeric one does: then what follows that colon is taken for the port, and it ends with a bracket. A
bracket that opens a host and is never closed costs the host its last character.

## Main definitions

* `ReadRouting.Address.bracketed` — the address as one text, with brackets around its host.
* `ReadRouting.Address.Spells` — a text spells an address, with or without brackets.
* `ReadRouting.Address.IsWrittenHost` — the host as it stands in a text.
* `ReadRouting.Address.IsUnclosed` — a host as it is written, with an opening bracket only.

## Main results

* `ReadRouting.Address.parse_written` — which texts without a port are read, and what is lost.
* `ReadRouting.Address.parse_spelling` — spellings are read back.
-/

namespace ReadRouting.Address

variable {s : String} {a : Address} {w : List Char}

/-! ## The last colon of a text -/

/-- A text with a colon has a last one. -/
lemma exists_last_colon {cs : List Char} (h : ':' ∈ cs) :
    ∃ before after, ':' ∉ after ∧ cs = before ++ ':' :: after := by
  obtain ⟨back, front, heq, hback⟩ := List.eq_append_cons_of_mem (List.mem_reverse.mpr h)
  refine ⟨front.reverse, back.reverse, fun hmem => hback (List.mem_reverse.mp hmem), ?_⟩
  rw [← List.reverse_reverse cs, heq, List.reverse_append, List.reverse_cons, List.append_assoc,
    List.singleton_append]

/-- A text without a colon is a host. -/
lemma parse_of_not_mem (h : ':' ∉ s.toList) : parse s = .ok (ofParts s.toList defaultPort) := by
  rw [parse, splitLast_eq_none h]

/-! ## Brackets -/

/-- A host in brackets loses the brackets. -/
lemma unbracket_bracketed (host : List Char) : unbracket ('[' :: (host ++ [']'])) = host :=
  List.dropLast_concat

/-- The address as one text, with brackets around its host. -/
def bracketed (a : Address) : String := "[" ++ a.host ++ "]:" ++ toString a.port.value

/-- A text spells an address: the host is in brackets, or begins with none, and the port follows
after a colon. -/
def Spells (s : String) (a : Address) : Prop :=
  (a.IsWritable ∧ a.port.long = false) ∧
    (s = a.bracketed ∨ s = a.spelled ∧ a.host.toList.head? ≠ some '[')

/-- The text of an address is read as the address if it has brackets around the host. -/
lemma parse_bracketed (hport : a.IsWritable) :
    parse a.bracketed = .ok ⟨a.host, ⟨a.port.value, false⟩⟩ := by
  have hs : a.bracketed.toList =
      '[' :: (a.host.toList ++ [']']) ++ ':' :: (toString a.port.value).toList := by
    simp [bracketed]
  rw [parse_of_toString hport hs, ofParts, unbracket_bracketed, String.ofList_toList]

/-- A spelling of an address is read as the address. -/
lemma Spells.parse_eq (h : Spells s a) : parse s = .ok a := by
  obtain ⟨⟨hport, hmark⟩, hs⟩ := h
  have heta : a = ⟨a.host, ⟨a.port.value, false⟩⟩ := by rw [← hmark]
  rcases hs with rfl | ⟨rfl, hhost⟩
  · exact (parse_bracketed hport).trans (congrArg Except.ok heta.symm)
  · exact (parse_spelled_of_head?_ne hhost hport).trans (congrArg Except.ok heta.symm)

/-- **Spellings are read back.** Take any integer that can be written for a port. After a colon at
the end of any host that begins with no bracket, and of any host whatsoever that is put in brackets,
it is read as that port, and the host as that host. So of whatever is spelled in one of these ways,
the address that is read is the one that it spells, and it spells no other. -/
theorem parse_spelling (host : String) {port : Int}
    (hport : port.natAbs < Nat.pow 10 Text.maxDigits) :
    (host.toList.head? ≠ some '[' →
      parse (host ++ ":" ++ toString port) = .ok ⟨host, ⟨port, false⟩⟩) ∧
    parse ("[" ++ host ++ "]:" ++ toString port) = .ok ⟨host, ⟨port, false⟩⟩ ∧
    ∀ s a, Spells s a → ∀ b, (parse s = .ok b ↔ Spells s b) ∧ (Spells s b → b = a) := by
  refine ⟨fun hhost => ?_, ?_, fun s a hs b => ⟨⟨fun hb => ?_, Spells.parse_eq⟩, fun hb => ?_⟩⟩
  · exact parse_spelled_of_head?_ne (a := ⟨host, ⟨port, false⟩⟩) hhost hport
  · exact parse_bracketed (a := ⟨host, ⟨port, false⟩⟩) hport
  · rw [hs.parse_eq] at hb
    cases hb
    exact hs
  · rw [← Except.ok.injEq (ε := Fault), ← hb.parse_eq, hs.parse_eq]

/-- A host that begins with a bracket and has more of them in it, in brackets itself; and one that
ends with a colon, in none. -/
theorem parse_spelling_brackets_and_colons :
    let a : Address := ⟨"[x]:y", ⟨0, false⟩⟩
    let b : Address := ⟨"::1:", ⟨65535, false⟩⟩
    a.port.value.natAbs < Nat.pow 10 Text.maxDigits ∧
      b.port.value.natAbs < Nat.pow 10 Text.maxDigits ∧ b.host.toList.head? ≠ some '[' ∧
      parse "[[x]:y]:0" = .ok a ∧ parse "::1::65535" = .ok b ∧ parse "[::1:]:65535" = .ok b := by
  intro a b
  have ha : a.port.value.natAbs < Nat.pow 10 Text.maxDigits :=
    isWritable_of_lt (a := a) (by decide)
  have hb : b.port.value.natAbs < Nat.pow 10 Text.maxDigits :=
    isWritable_of_lt (a := b) (by decide)
  have hhost : b.host.toList.head? ≠ some '[' := by decide
  exact ⟨ha, hb, hhost, (parse_spelling a.host ha).2.1, (parse_spelling b.host hb).1 hhost,
    (parse_spelling b.host hb).2.1⟩

/-! ## Texts without a port -/

/-- The host as it stands in a text: what is before the last colon, or all if there is none. -/
def IsWrittenHost (s : String) (w : List Char) : Prop :=
  ':' ∉ s.toList ∧ s.toList = w ∨ ∃ port, ':' ∉ port ∧ s.toList = w ++ ':' :: port

/-- An opening bracket begins the host, and no closing one ends it. -/
def IsUnclosed (w : List Char) : Prop := ∃ rest, w = '[' :: rest ∧ rest.getLast? ≠ some ']'

/-- The host that is read from a text is the one that stands there, without its brackets. -/
lemma exists_writtenHost (h : parse s = .ok a) :
    ∃ w, IsWrittenHost s w ∧ a.host.toList = unbracket w := by
  by_cases hcolon : ':' ∈ s.toList
  · obtain ⟨host, port, hport, hs⟩ := exists_last_colon hcolon
    refine ⟨host, Or.inr ⟨port, hport, hs⟩, ?_⟩
    rw [parse_of_append hport hs] at h
    split at h
    · cases h
      exact String.toList_ofList
    · cases h
  · refine ⟨s.toList, Or.inl ⟨hcolon, rfl⟩, ?_⟩
    rw [parse_of_not_mem hcolon] at h
    cases h
    exact String.toList_ofList

/-- A host that is not unclosed begins with no bracket, or stands in brackets. -/
lemma not_isUnclosed_iff :
    ¬ IsUnclosed w ↔ w.head? ≠ some '[' ∨ ∃ host, w = '[' :: (host ++ [']']) := by
  constructor
  · intro h
    refine or_iff_not_imp_left.mpr fun hhead => ?_
    obtain ⟨rest, rfl⟩ := List.head?_eq_some_iff.mp (not_not.mp hhead)
    have hlast : rest.getLast? = some ']' := by
      by_contra hne
      exact h ⟨rest, rfl, hne⟩
    obtain ⟨host, rfl⟩ := List.getLast?_eq_some_iff.mp hlast
    exact ⟨host, rfl⟩
  · rintro (hhead | ⟨host, rfl⟩) ⟨rest, heq, hlast⟩
    · exact hhead (by rw [heq]; rfl)
    · cases heq
      exact hlast List.getLast?_concat

/-- Nothing but brackets around the host is lost exactly if the host is not unclosed. -/
lemma unbracket_keeps_iff :
    (unbracket w = w ∨ w = '[' :: (unbracket w ++ [']'])) ↔ ¬ IsUnclosed w := by
  rw [not_isUnclosed_iff]
  constructor
  · rintro (hsame | hbrackets)
    · refine Or.inl fun hhead => ?_
      obtain ⟨rest, rfl⟩ := List.head?_eq_some_iff.mp hhead
      have hlength : rest.dropLast.length = rest.length + 1 := congrArg List.length hsame
      rw [List.length_dropLast] at hlength
      omega
    · exact Or.inr ⟨_, hbrackets⟩
  · rintro (hhead | ⟨host, rfl⟩)
    · exact Or.inl (unbracket_of_head?_ne hhead)
    · exact Or.inr (by rw [unbracket_bracketed])

/-- With a bracket that is not closed the last character is lost, if there is one. -/
lemma IsUnclosed.exists_lost (h : IsUnclosed w) :
    ∃ lost, w = '[' :: (unbracket w ++ lost) ∧ lost.length ≤ 1 ∧ ']' ∉ lost := by
  obtain ⟨rest, rfl, hlast⟩ := h
  rcases List.eq_nil_or_concat rest with rfl | ⟨host, c, rfl⟩
  · exact ⟨[], rfl, by decide, nofun⟩
  · rw [List.concat_eq_append, List.getLast?_concat] at hlast
    refine ⟨[c], ?_, Nat.le_refl 1, ?_⟩
    · rw [unbracket, List.concat_eq_append, List.dropLast_concat]
    · simpa [eq_comm] using hlast

/-- A host in brackets with a colon in it is not read without a port: what follows the last colon
ends with a bracket, and is no numeral. -/
lemma parse_brackets_of_mem {h : String} (hcolon : ':' ∈ h.toList) :
    parse ("[" ++ h ++ "]") = .error .illFormed := by
  obtain ⟨before, after, hafter, hh⟩ := exists_last_colon hcolon
  have hs : ("[" ++ h ++ "]").toList = ('[' :: before) ++ ':' :: (after ++ [']']) := by
    simp [hh]
  have hnumeral : Text.readInteger? (String.ofList (after ++ [']'])) = none := by
    refine Option.eq_none_iff_forall_ne_some.mpr fun n hn => ?_
    have hbracket := Text.isOfNumeral_of_readInteger? hn ']' (by simp)
    exact absurd hbracket (by decide)
  rw [parse_of_append (by simpa using hafter) hs, hnumeral]

/-- Any other host in brackets is read with the default port. -/
lemma parse_brackets_of_not_mem {h : String} (hcolon : ':' ∉ h.toList) :
    parse ("[" ++ h ++ "]") = .ok ⟨h, ⟨defaultPort, false⟩⟩ := by
  have hs : ("[" ++ h ++ "]").toList = '[' :: (h.toList ++ [']']) := by simp
  rw [parse_of_not_mem (by simpa [hs] using hcolon), hs, ofParts, unbracket_bracketed,
    String.ofList_toList]

/-- **Texts with and without a port.** A host without a colon that begins with no bracket is read
with the default port, and so it is with that port spelled out. A host in brackets is read with that
port spelled out, whatever it is; without, only if it has no colon, and it is ill-formed otherwise.
Of whatever is read, the host stands in the text as it is or in brackets, unless it begins there
with a bracket that is not closed; exactly then something else is lost, the last character. -/
theorem parse_written (h : String) :
    (':' ∉ h.toList → h.toList.head? ≠ some '[' →
      parse h = .ok ⟨h, ⟨27017, false⟩⟩ ∧ parse (h ++ ":27017") = .ok ⟨h, ⟨27017, false⟩⟩) ∧
    parse ("[" ++ h ++ "]:27017") = .ok ⟨h, ⟨27017, false⟩⟩ ∧
    parse ("[" ++ h ++ "]") =
      (if ':' ∈ h.toList then .error .illFormed else .ok ⟨h, ⟨27017, false⟩⟩) ∧
    ∀ a, parse h = .ok a → ∃ w, IsWrittenHost h w ∧
      ((w = a.host.toList ∨ w = '[' :: (a.host.toList ++ [']'])) ↔ ¬ IsUnclosed w) ∧
      (IsUnclosed w →
        ∃ lost, w = '[' :: (a.host.toList ++ lost) ∧ lost.length ≤ 1 ∧ ']' ∉ lost) := by
  have hport : (⟨h, ⟨27017, false⟩⟩ : Address).IsWritable :=
    isWritable_of_lt (show (27017 : Int).natAbs < 65536 by decide)
  have hnumeral : toString (27017 : Int) = "27017" := by decide +kernel
  refine ⟨fun hcolon hhead => ⟨?_, ?_⟩, ?_, ?_, fun a ha => ?_⟩
  · rw [parse_of_not_mem hcolon, ofParts, unbracket_of_head?_ne hhead, String.ofList_toList]
    rfl
  · have hspelled := parse_spelled_of_head?_ne (a := ⟨h, ⟨27017, false⟩⟩) hhead hport
    rwa [spelled, hnumeral, String.append_assoc] at hspelled
  · have hbracketed := parse_bracketed (a := ⟨h, ⟨27017, false⟩⟩) hport
    rwa [bracketed, hnumeral, String.append_assoc] at hbracketed
  · split
    · next hcolon => exact parse_brackets_of_mem hcolon
    · next hcolon => exact parse_brackets_of_not_mem hcolon
  · obtain ⟨w, hw, hhost⟩ := exists_writtenHost ha
    rw [hhost]
    refine ⟨w, hw, ?_, fun hunclosed => hunclosed.exists_lost⟩
    rw [← unbracket_keeps_iff, eq_comm (a := w) (b := unbracket w)]

/-- A numeric host in brackets, with and without a port; and a host whose bracket is not closed. -/
theorem parse_written_numeric_host :
    parse "[::1]:27017" = .ok ⟨"::1", ⟨27017, false⟩⟩ ∧ parse "[::1]" = .error .illFormed ∧
      parse "a" = .ok ⟨"a", ⟨27017, false⟩⟩ ∧ parse "a:27017" = .ok ⟨"a", ⟨27017, false⟩⟩ ∧
      parse "[abc:1" = .ok ⟨"ab", ⟨1, false⟩⟩ ∧ IsWrittenHost "[abc:1" "[abc".toList ∧
      IsUnclosed "[abc".toList := by
  obtain ⟨hportless, -⟩ := parse_written "a"
  obtain ⟨-, hport, hbrackets, -⟩ := parse_written "::1"
  obtain ⟨hdefault, hspelled⟩ := hportless (by decide) (by decide)
  have hunclosed : parse "[abc:1" = .ok ⟨"ab", ⟨1, false⟩⟩ := rfl
  refine ⟨hport, hbrackets, hdefault, hspelled, hunclosed, Or.inr ⟨['1'], by decide, rfl⟩, ?_⟩
  exact ⟨"abc".toList, rfl, by decide⟩

end ReadRouting.Address
