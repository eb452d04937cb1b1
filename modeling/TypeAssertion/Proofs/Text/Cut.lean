import TypeAssertion.Proofs.Text.Trim

/-!
Parts of a text by the offsets of their bytes. A text is held as UTF-8, so a part can be cut out only
where characters begin and end. What is cut out of a text in three parts at its two seams is the part
between them, and every cut that can be made is of that kind. Small letters take as many bytes as
capital ones, and trimming adds none.
-/

set_option autoImplicit false

namespace TypeAssertion.Text

/-- A part of a text, by the offsets of its first byte and of the byte after its last. -/
structure Cut where
  text : String
  start : Nat
  stop : Nat

namespace Cut

/-- The part lies in the text, and begins and ends where characters do. -/
structure Placed (cut : Cut) : Prop where
  ordered : cut.start ≤ cut.stop
  within : cut.stop ≤ cut.text.utf8ByteSize
  begins : (⟨cut.start⟩ : String.Pos.Raw).IsValid cut.text
  ends : (⟨cut.stop⟩ : String.Pos.Raw).IsValid cut.text

instance (cut : Cut) : Decidable cut.Placed :=
  decidable_of_iff (cut.start ≤ cut.stop ∧ cut.stop ≤ cut.text.utf8ByteSize ∧
      (⟨cut.start⟩ : String.Pos.Raw).IsValid cut.text ∧
      (⟨cut.stop⟩ : String.Pos.Raw).IsValid cut.text)
    ⟨fun h => ⟨h.1, h.2.1, h.2.2.1, h.2.2.2⟩, fun h => ⟨h.1, h.2, h.3, h.4⟩⟩

/-- The part that is cut out, if it can be. -/
def part? (cut : Cut) : Option String :=
  if h : cut.Placed then
    some (String.extract (cut.text.pos ⟨cut.start⟩ h.begins) (cut.text.pos ⟨cut.stop⟩ h.ends))
  else none

theorem placed_of_part? {cut : Cut} {part : String} (taken : cut.part? = some part) :
    cut.Placed := by
  unfold part? at taken
  split at taken
  · next placed => exact placed
  · cases taken

/-- A text in three parts can be cut at its two seams. -/
theorem placed_of_append (front part back : String) :
    (⟨front ++ part ++ back, front.utf8ByteSize, (front ++ part).utf8ByteSize⟩ : Cut).Placed where
  ordered := by
    rw [String.utf8ByteSize_append]
    exact Nat.le_add_right _ _
  within := by
    rw [String.utf8ByteSize_append (s := front ++ part)]
    exact Nat.le_add_right _ _
  begins := by
    refine String.Pos.Raw.isValid_iff_exists_append.2 ⟨front, part ++ back, ?_, rfl⟩
    exact String.append_assoc
  ends := String.Pos.Raw.isValid_iff_exists_append.2 ⟨front ++ part, back, rfl, rfl⟩

/-- What is cut out is what stands between the two seams. -/
theorem part?_of_append (front part back : String) :
    (⟨front ++ part ++ back, front.utf8ByteSize, (front ++ part).utf8ByteSize⟩ : Cut).part? =
      some part := by
  rw [part?, dif_pos (placed_of_append front part back)]
  refine congrArg some (String.toByteArray_inj.1 ?_)
  rw [String.toByteArray_extract, String.offset_pos, String.offset_pos, String.toByteArray_append,
    String.toByteArray_append, ByteArray.append_assoc, String.utf8ByteSize_append]
  exact (ByteArray.extract_append_size_add (i := 0)).trans (ByteArray.extract_append_eq_left rfl)

/-- A part that is cut out stands in the text where its offsets say. -/
theorem exists_append_of_part? {cut : Cut} {part : String} (taken : cut.part? = some part) :
    ∃ front back, cut.text = front ++ part ++ back ∧ front.utf8ByteSize = cut.start ∧
      (front ++ part).utf8ByteSize = cut.stop := by
  have placed := placed_of_part? taken
  obtain ⟨text, start, stop⟩ := cut
  obtain ⟨front, rest, rfl, begins⟩ := String.Pos.Raw.isValid_iff_exists_append.1 placed.begins
  obtain rfl : start = front.utf8ByteSize := congrArg String.Pos.Raw.byteIdx begins
  have ordered : front.utf8ByteSize ≤ stop := placed.ordered
  have seam : ∃ middle back, rest = middle ++ back ∧ stop = (front ++ middle).utf8ByteSize := by
    rcases String.Pos.Raw.isValid_append.1 placed.ends with inside | ⟨-, later⟩
    · have least : stop ≤ front.utf8ByteSize := inside.le_utf8ByteSize
      refine ⟨"", rest, String.empty_append.symm, ?_⟩
      rw [String.append_empty]
      omega
    · obtain ⟨middle, back, parts, ends⟩ := String.Pos.Raw.isValid_iff_exists_append.1 later
      have offset : stop - front.utf8ByteSize = middle.utf8ByteSize :=
        congrArg String.Pos.Raw.byteIdx ends
      refine ⟨middle, back, parts, ?_⟩
      rw [String.utf8ByteSize_append]
      omega
  obtain ⟨middle, back, rfl, rfl⟩ := seam
  rw [← String.append_assoc, part?_of_append] at taken
  obtain rfl := Option.some.inj taken
  exact ⟨front, back, String.append_assoc.symm, rfl, rfl⟩

end Cut

/-! ### Sizes in bytes -/

theorem utf8Size_toLower (c : Char) : c.toLower.utf8Size = c.utf8Size := by
  unfold Char.toLower
  split
  · next capital =>
    have most : c.val.toNat ≤ 90 := capital.2
    have plain : c.utf8Size = 1 :=
      Char.utf8Size_eq_one_iff.2 (UInt32.le_iff_toNat_le.2 (most.trans (by decide)))
    rw [plain, Char.utf8Size_eq_one_iff, UInt32.le_iff_toNat_le, UInt32.toNat_add]
    change (c.val.toNat + 32) % 2 ^ 32 ≤ 127
    omega
  · rfl

theorem utf8ByteSize_ofList_cons (c : Char) (text : List Char) :
    (String.ofList (c :: text)).utf8ByteSize = c.utf8Size + (String.ofList text).utf8ByteSize := by
  rw [String.ofList_cons, String.utf8ByteSize_append, String.utf8ByteSize_singleton]

/-- Small letters take as many bytes as capital ones. -/
theorem utf8ByteSize_lower (text : List Char) :
    (String.ofList (lower text)).utf8ByteSize = (String.ofList text).utf8ByteSize := by
  induction text with
  | nil => rfl
  | cons c rest ih =>
    rw [lower, List.map_cons, utf8ByteSize_ofList_cons, utf8ByteSize_ofList_cons, ← lower, ih,
      utf8Size_toLower]

theorem utf8ByteSize_trim_le (text : List Char) :
    (String.ofList (trim text)).utf8ByteSize ≤ (String.ofList text).utf8ByteSize := by
  obtain ⟨before, after, -, -, parts⟩ := exists_trim_surrounded text
  conv_rhs => rw [parts]
  rw [String.ofList_append, String.ofList_append, String.utf8ByteSize_append,
    String.utf8ByteSize_append]
  omega

end TypeAssertion.Text
