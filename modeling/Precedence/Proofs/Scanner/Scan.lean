import Precedence.Scanner

namespace Precedence

theorem Cursor.advance?_append {pos : Nat} {front rest : List Char} :
    Cursor.advance? ⟨front ++ rest, pos⟩ (byteLength front) =
      some ⟨rest, pos + byteLength front⟩ :=
  advance?_eq_some_iff.mpr ⟨front, rfl, rfl, by simp⟩

namespace Lexicon

variable {lexicon : Lexicon}

theorem scan_token_kind_mem {cursor next : Cursor} {token : Token}
    {span : Span} (found : lexicon.scan cursor = .token token span next) :
    token.kind ∈ lexicon.kinds := by
  fun_induction scan lexicon cursor with
  | case5 cursor c rest shape hit matched someByte after moved kind value word =>
    obtain ⟨rfl, _, _⟩ := Scan.token.inj found
    exact match?_kind_mem matched word
  | case6 cursor c rest shape hit matched someByte after moved skipped ih => exact ih found
  | _ => cases found

theorem scan_of_rest_eq_nil {cursor : Cursor}
    (done : cursor.rest = []) : lexicon.scan cursor = .finish cursor := by
  rw [scan]
  split
  · rfl
  · next shape => cases done.symm.trans shape

variable {front rest : List Char} {pos : Nat}

/-- What becomes of a text whose front is matched. -/
theorem scan_of_match {word? : Option (String × String)} (nonempty : front ≠ [])
    (matched : lexicon.match? (front ++ rest) = some ⟨byteLength front, word?⟩) :
    lexicon.scan ⟨front ++ rest, pos⟩ =
      match word? with
      | some (kind, value) => .token ⟨kind, value⟩ ⟨pos, pos + byteLength front⟩
          ⟨rest, pos + byteLength front⟩
      | none => lexicon.scan ⟨rest, pos + byteLength front⟩ := by
  have someByte : byteLength front ≠ 0 := fun none => nonempty (byteLength_eq_zero.mp none)
  rw [scan]
  split
  · next empty => exact absurd (List.append_eq_nil_iff.mp empty).1 nonempty
  · split
    · next missed => cases matched.symm.trans missed
    · next hit found =>
      cases matched.symm.trans found
      rw [dif_neg someByte]
      split
      · next stuck => cases Cursor.advance?_append.symm.trans stuck
      · next after moved =>
        cases Cursor.advance?_append.symm.trans moved
        cases word? <;> rfl

theorem scan_of_word {kind value : String} (nonempty : front ≠ [])
    (matched : lexicon.match? (front ++ rest) = some ⟨byteLength front, some (kind, value)⟩) :
    lexicon.scan ⟨front ++ rest, pos⟩ =
      .token ⟨kind, value⟩ ⟨pos, pos + byteLength front⟩ ⟨rest, pos + byteLength front⟩ :=
  scan_of_match nonempty matched

theorem scan_of_skipped (nonempty : front ≠ [])
    (matched : lexicon.match? (front ++ rest) = some ⟨byteLength front, none⟩) :
    lexicon.scan ⟨front ++ rest, pos⟩ = lexicon.scan ⟨rest, pos + byteLength front⟩ :=
  scan_of_match nonempty matched

theorem scan_of_unmatched {c : Char} (missed : lexicon.match? (c :: rest) = none) :
    lexicon.scan ⟨c :: rest, pos⟩ = .failure (.unrecognized c pos) ⟨c :: rest, pos⟩ := by
  rw [scan]
  split
  · next empty => cases empty
  · next shape =>
    obtain ⟨rfl, rfl⟩ := List.cons.inj shape
    split
    · rfl
    · next matched => cases missed.symm.trans matched

end Lexicon

theorem Scanner.next_of_token {scanner : Scanner} {token : Token} {span : Span} {cursor : Cursor}
    (scanned : scanner.lexicon.scan scanner.cursor = .token token span cursor) :
    next scanner = .ok () { scanner with cursor, current := token, span } := by
  unfold next
  rw [scanned]

theorem Scanner.next_of_finish {scanner : Scanner} {cursor : Cursor}
    (scanned : scanner.lexicon.scan scanner.cursor = .finish cursor) :
    next scanner =
      .ok () { scanner with cursor, current := scanner.endToken, span := .emptyAt cursor.pos } := by
  unfold next
  rw [scanned]

theorem Scanner.next_of_failure {scanner : Scanner} {error : ScanError} {cursor : Cursor}
    (scanned : scanner.lexicon.scan scanner.cursor = .failure error cursor) :
    next scanner = .error error { scanner with cursor } := by
  unfold next
  rw [scanned]

theorem Scanner.start_of_next {lexicon : Lexicon} {endToken : Token} {text : List Char}
    {scanner : Scanner} (found : next (ofText lexicon endToken text) = .ok () scanner) :
    start lexicon endToken text = .ok scanner := by
  unfold start
  rw [found]

end Precedence
