import DirectoryName.Proofs.Reading.Name

namespace DirectoryName.Reading

/-! Path notation and strictness.

Nothing is padding in path notation and nothing separates its components, so of a
strictness only the part about escapes reaches its readers. Two that agree there read
every text alike, down to the fault and its place. -/

theorem skipPadding_dce (strictness : Strictness) (fault : SyntaxFault) (text : List UInt8) :
    skipPadding ⟨.dce, strictness⟩ fault text = .ok text :=
  rfl

theorem finishValue_dce (first second : Strictness) (text : List UInt8) :
    finishValue ⟨.dce, first⟩ text = finishValue ⟨.dce, second⟩ text := by
  simp only [finishValue, skipPadding_dce]

theorem readHexValue_dce (first second : Strictness) (text : List UInt8) :
    readHexValue ⟨.dce, first⟩ text = readHexValue ⟨.dce, second⟩ text := by
  simp only [readHexValue, finishValue_dce first second]

section

variable {first second : Strictness}
  (agree : first.needfulEscapesOnly = second.needfulEscapesOnly)
include agree

theorem readEscape_dce (text : List UInt8) :
    readEscape ⟨.dce, first⟩ text = readEscape ⟨.dce, second⟩ text := by
  simp only [readEscape, agree]

theorem readPlainPieces_dce (text : List UInt8) :
    readPlainPieces ⟨.dce, first⟩ text = readPlainPieces ⟨.dce, second⟩ text := by
  fun_induction readPlainPieces ⟨.dce, first⟩ text with
  | case1 => rw [readPlainPieces]
  | case2 octet after ends => rw [readPlainPieces_cons, if_pos ends]
  | case3 after stuck escape ends =>
      rw [readPlainPieces_cons, if_neg ends, if_pos rfl, ← readEscape_dce agree, escape]
      rfl
  | case4 after piece remaining escape pieces rest deeper ends ih
  | case5 after piece remaining escape stuck deeper ends ih =>
      rw [readPlainPieces_cons, if_neg ends, if_pos rfl, ← readEscape_dce agree, escape]
      simp only [bind, Except.bind, pure, Except.pure, ← ih, deeper]
  | case6 octet after ends noBackslash fault bare =>
      rw [readPlainPieces_cons, if_neg ends, if_neg noBackslash]
      cases bare
  | case7 octet after ends noBackslash bare pieces rest deeper ih
  | case8 octet after ends noBackslash bare stuck deeper ih =>
      rw [readPlainPieces_cons, if_neg ends, if_neg noBackslash]
      simp only [bare, bind, Except.bind, pure, Except.pure, ← ih, deeper]

theorem readPlainValue_dce (text : List UInt8) :
    readPlainValue ⟨.dce, first⟩ text = readPlainValue ⟨.dce, second⟩ text := by
  simp only [readPlainValue, readPlainPieces_dce agree, Dialect.padsWithSpaces]
  rfl

theorem readValue_dce (text : List UInt8) :
    readValue ⟨.dce, first⟩ text = readValue ⟨.dce, second⟩ text := by
  cases text with
  | nil => exact readPlainValue_dce agree []
  | cons octet after =>
      simp only [readValue, readPlainValue_dce agree, readHexValue_dce first second after]

theorem readAva_dce (text : List UInt8) :
    readAva ⟨.dce, first⟩ text = readAva ⟨.dce, second⟩ text := by
  simp only [readAva, skipPadding_dce, readValue_dce agree]

theorem readAvas_dce (text : List UInt8) :
    readAvas ⟨.dce, first⟩ text = readAvas ⟨.dce, second⟩ text := by
  fun_induction readAvas ⟨.dce, first⟩ text with
  | case1 text stuck read | case2 text ava read =>
      rw [readAvas_bind, ← readAva_dce agree, read]
      rfl
  | case3 text ava next after read joins stuck deeper ih
  | case4 text ava next after read joins rdn rest deeper ih =>
      rw [readAvas_bind, ← readAva_dce agree, read]
      simp only [bind, Except.bind, pure, Except.pure, if_pos joins, ← ih, deeper]
  | case5 text ava next after read apart =>
      rw [readAvas_bind, ← readAva_dce agree, read]
      simp only [bind, Except.bind, pure, Except.pure, if_neg apart]

theorem readPath_dce (text : List UInt8) :
    readPath ⟨.dce, first⟩ text = readPath ⟨.dce, second⟩ text := by
  fun_induction readPath ⟨.dce, first⟩ text with
  | case1 => rw [readPath]
  | case2 after stuck read =>
      rw [readPath_cons, if_pos rfl, ← readAvas_dce agree, read]
      rfl
  | case3 after rdn rest read stuck deeper ih | case4 after rdn rest read others deeper ih =>
      rw [readPath_cons, if_pos rfl, ← readAvas_dce agree, read]
      simp only [bind, Except.bind, pure, Except.pure, ← ih, deeper]
  | case5 next after bare => rw [readPath_cons, if_neg bare]

theorem readName_dce (text : List UInt8) :
    readName ⟨.dce, first⟩ text = readName ⟨.dce, second⟩ text := by
  simp only [readName, isRootText, Dialect.padsWithSpaces, readPath_dce agree]
  rfl

end

end DirectoryName.Reading
