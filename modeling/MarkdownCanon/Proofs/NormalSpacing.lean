import MarkdownCanon.Proofs.SingleSpaces
import MarkdownCanon.Text.Utf8

/-! The normal form of spacing: what it leaves alone, that bringing a text there in parts comes to
the same, and that encoded text is brought there as text is, as no byte of a longer character looks
like spacing. -/

namespace MarkdownCanon.Text

theorem isSpacing_iff {c : Char} :
    isSpacing c = true ↔ c = ' ' ∨ c = '\t' ∨ c = '\r' ∨ c = '\n' := by
  simp [isSpacing, or_assoc]

/-- All that is not spacing stays as it is, in order. -/
theorem filter_collapseRuns (inRun : Bool) (cs : List Char) :
    (collapseRuns isSpacing ' ' inRun cs).filter (!isSpacing ·) = cs.filter (!isSpacing ·) := by
  have space : isSpacing ' ' = true := rfl
  induction cs generalizing inRun with
  | nil => rfl
  | cons c cs ih =>
    rw [collapseRuns]
    by_cases spacing : isSpacing c = true
    · rw [if_pos spacing, List.filter_cons_of_neg (by simp [spacing])]
      split
      · exact ih true
      · rw [List.filter_cons_of_neg (by simp [space]), ih]
    · rw [if_neg spacing, List.filter_cons_of_pos (by simp [spacing]),
        List.filter_cons_of_pos (by simp [spacing]), ih]

/-- What stands before a text matters for its first run only, and the normal form has that run. -/
theorem collapseRuns_collapse (inRun : Bool) (cs : List Char) :
    collapseRuns isSpacing ' ' inRun (collapse cs) = collapseRuns isSpacing ' ' inRun cs := by
  have space : isSpacing ' ' = true := rfl
  cases inRun with
  | false => exact collapseRuns_idem false cs
  | true =>
    cases cs with
    | nil => rfl
    | cons c cs =>
      unfold collapse
      by_cases spacing : isSpacing c = true
      · simp only [collapseRuns, spacing, space, ↓reduceIte, Bool.false_eq_true,
          collapseRuns_idem]
      · simp only [collapseRuns, spacing, ↓reduceIte, Bool.false_eq_true, collapseRuns_idem]

/-- A text may be brought into its normal form part by part. -/
theorem collapse_append (a b : List Char) :
    collapse (a ++ b) = collapse (collapse a ++ collapse b) := by
  have ended : endsSpaced false (collapse a) = endsSpaced false a := endsSpaced_collapseRuns false a
  calc collapse (a ++ b)
      = collapse a ++ collapseRuns isSpacing ' ' (endsSpaced false a) b :=
        collapseRuns_append false a b
    _ = collapse (collapse a) ++
          collapseRuns isSpacing ' ' (endsSpaced false (collapse a)) (collapse b) := by
        rw [ended, collapseRuns_collapse, collapse, collapse, collapseRuns_idem]
    _ = collapse (collapse a ++ collapse b) :=
        (collapseRuns_append false (collapse a) (collapse b)).symm

namespace Utf8

/-- An ASCII character is one byte, and no byte of another one is ASCII. -/
theorem utf8EncodeChar_cases (c : Char) :
    c.toNat < 0x80 ∧ String.utf8EncodeChar c = [UInt8.ofNat c.toNat] ∨
      0x80 ≤ c.toNat ∧ ∀ b ∈ String.utf8EncodeChar c, 0x80 ≤ b.toNat := by
  have value : c.val.toNat = c.toNat := rfl
  fun_cases String.utf8EncodeChar c with
  | case1 ascii => exact .inl ⟨by omega, rfl⟩
  | case2 | case3 | case4 =>
    refine .inr ⟨by omega, ?_⟩
    simp only [List.mem_cons, List.not_mem_nil, or_false, forall_eq_or_imp, forall_eq,
      UInt8.toNat_ofNat']
    omega

theorem isSpacingByte_ofNat {c : Char} (ascii : c.toNat < 0x80) :
    isSpacingByte (UInt8.ofNat c.toNat) = isSpacing c := by
  have small : c.toNat % 256 = c.toNat := by omega
  rw [Bool.eq_iff_iff, isSpacing_iff]
  simp [isSpacingByte, ← UInt8.toNat_inj, ← Char.toNat_inj, small, or_assoc]

theorem isSpacingByte_eq_false {b : UInt8} (large : 0x80 ≤ b.toNat) : isSpacingByte b = false := by
  simp only [isSpacingByte, Bool.or_eq_false_iff, beq_eq_false_iff_ne, ne_eq, ← UInt8.toNat_inj,
    UInt8.reduceToNat]
  omega

theorem collapseRuns_solid {bytes : List UInt8} (some_ : bytes ≠ [])
    (solid : ∀ b ∈ bytes, isSpacingByte b = false) (inRun : Bool) (rest : List UInt8) :
    collapseRuns isSpacingByte 0x20 inRun (bytes ++ rest) =
      bytes ++ collapseRuns isSpacingByte 0x20 false rest := by
  induction bytes generalizing inRun with
  | nil => exact absurd rfl some_
  | cons b bytes ih =>
    have here : isSpacingByte b = false := solid b List.mem_cons_self
    rw [List.cons_append, collapseRuns, here, if_neg Bool.false_ne_true, List.cons_append]
    cases bytes with
    | nil => rfl
    | cons next bytes => rw [ih (by simp) fun d m => solid d (List.mem_cons_of_mem _ m)]

theorem encode_cons (c : Char) (cs : List Char) :
    encode (c :: cs) = String.utf8EncodeChar c ++ encode cs := List.flatMap_cons

theorem isSpacing_eq_false {c : Char} (large : 0x80 ≤ c.toNat) : isSpacing c = false := by
  rw [← Bool.not_eq_true, isSpacing_iff]
  rintro (rfl | rfl | rfl | rfl) <;> exact absurd large (by decide)

/-- Encoding carries each run of spacing to a run, and nothing else to one. -/
theorem encode_collapseRuns (inRun : Bool) (cs : List Char) :
    encode (collapseRuns isSpacing ' ' inRun cs) =
      collapseRuns isSpacingByte 0x20 inRun (encode cs) := by
  have space : String.utf8EncodeChar ' ' = [0x20] := by decide
  induction cs generalizing inRun with
  | nil => rfl
  | cons c cs ih =>
    rw [encode_cons, collapseRuns]
    obtain ⟨ascii, one⟩ | ⟨large, bytes⟩ := utf8EncodeChar_cases c
    · rw [one, List.singleton_append, collapseRuns, isSpacingByte_ofNat ascii]
      by_cases spacing : isSpacing c = true
      · rw [if_pos spacing, if_pos spacing]
        split
        · exact ih true
        · rw [encode_cons, space, ih, List.singleton_append]
      · rw [if_neg spacing, if_neg spacing, encode_cons, one, ih, List.singleton_append]
    · have solid : ∀ b ∈ String.utf8EncodeChar c, isSpacingByte b = false := fun b m =>
        isSpacingByte_eq_false (bytes b m)
      rw [isSpacing_eq_false large, if_neg Bool.false_ne_true, encode_cons, ih,
        collapseRuns_solid String.utf8EncodeChar_ne_nil solid]

end Utf8

/-- **Spacing has a normal form.** It holds no spacing but single spaces, all other characters stay
in order, a text in its normal form is left alone, a text may be brought there in parts, and the
bytes of a text are brought there as the text is. Bytes that are no text have a normal form too. -/
theorem collapse_normal (a b : List Char) :
    '\t' ∉ collapse a ∧ '\r' ∉ collapse a ∧ '\n' ∉ collapse a ∧ ¬ [' ', ' '] <:+: collapse a ∧
      (collapse a).filter (· ∉ [' ', '\t', '\r', '\n']) =
        a.filter (· ∉ [' ', '\t', '\r', '\n']) ∧
      collapse (collapse a) = collapse a ∧
      collapse (a ++ b) = collapse (collapse a ++ collapse b) ∧
      Utf8.encode (collapse a) = collapseBytes (Utf8.encode a) ∧
      ∀ bytes : List UInt8, collapseBytes (collapseBytes bytes) = collapseBytes bytes := by
  have absent {c : Char} (spacing : isSpacing c = true) (other : c ≠ ' ') : c ∉ collapse a :=
    fun m => other (eq_space_of_mem m spacing)
  have solid : (fun c : Char => decide (c ∉ [' ', '\t', '\r', '\n'])) = (!isSpacing ·) := by
    funext c
    rw [Bool.eq_iff_iff]
    simp [isSpacing, and_assoc]
  refine ⟨absent rfl (by decide), absent rfl (by decide), absent rfl (by decide),
    Single.not_infix (collapseRuns_single false a).1, ?_, collapseRuns_idem false a,
    collapse_append a b, Utf8.encode_collapseRuns false a, collapseRuns_marked rfl false⟩
  rw [solid]
  exact filter_collapseRuns false a

end MarkdownCanon.Text
