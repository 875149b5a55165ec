/-
UTF-8 and newlines. The byte of a newline is part of no other character, so the newlines of a stream
can be found before it is decoded: a stream is UTF-8 exactly if all its pieces between newlines are.
Strict reading gives a text for the bytes that encode it, and for no others.
-/
import DocSearch.Proofs.Text.Lines
import DocSearch.Text.Utf8

namespace DocSearch.Text

/-- The bytes of a text. -/
def encode (cs : List Char) : List UInt8 := cs.flatMap String.utf8EncodeChar

/-- Whether bytes are the UTF-8 of a text. -/
def Encodes (bytes : List UInt8) : Prop := ∃ cs, bytes = encode cs

theorem encode_append (as bs : List Char) : encode (as ++ bs) = encode as ++ encode bs :=
  List.flatMap_append

theorem encodes_iff {bytes : ByteArray} : Encodes bytes.data.toList ↔ bytes.IsValidUTF8 := by
  constructor
  · rintro ⟨cs, hcs⟩
    refine ⟨cs, ByteArray.ext ?_⟩
    rw [List.utf8Encode, List.data_toByteArray, ← encode, ← hcs, Array.toArray_toList]
  · rintro ⟨cs, rfl⟩
    exact ⟨cs, by rw [List.utf8Encode, List.toList_data_toByteArray, encode]⟩

/-! ## The byte of a newline -/

theorem eq_ofNat_iff {b : UInt8} {n : Nat} : b = .ofNat n ↔ b.toNat = n % 256 := by
  rw [← UInt8.toNat_inj, UInt8.toNat_ofNat']

/-- The bytes of a character that takes more than one are all large. -/
theorem eq_newline_of_mem_utf8EncodeChar {c : Char} (h : 10 ∈ String.utf8EncodeChar c) : c = '\n' := by
  have hten : (10 : UInt8).toNat = 10 := rfl
  have hval : c.val.toNat = 10 := by
    unfold String.utf8EncodeChar at h
    dsimp only at h
    repeat' split at h
    all_goals
      simp only [List.mem_cons, List.not_mem_nil, or_false, eq_ofNat_iff, hten] at h
      omega
  exact Char.ext (UInt32.toNat_inj.1 hval)

theorem notMem_encode {cs : List Char} (h : '\n' ∉ cs) : 10 ∉ encode cs := fun hmem => by
  obtain ⟨c, hc, hten⟩ := List.mem_flatMap.1 hmem
  exact h (eq_newline_of_mem_utf8EncodeChar hten ▸ hc)

/-- The bytes of a text are parted where the text is. -/
theorem splitOn_encode (cs : List Char) : (encode cs).splitOn 10 = (cs.splitOn '\n').map encode := by
  obtain ⟨ls, last, hn, rfl⟩ := exists_ended '\n' cs
  have hbytes : encode (ls.flatMap (· ++ ['\n']) ++ last) =
      (ls.map encode).flatMap (· ++ [10]) ++ encode last := by
    rw [encode_append, encode, List.flatMap_assoc, List.flatMap_map]
    exact congrArg (ls.flatMap · ++ _) (funext fun l => encode_append l ['\n'])
  have hparts : ∀ l ∈ ls.map encode ++ [encode last], 10 ∉ l := by
    simp only [List.forall_mem_append, List.forall_mem_map, List.forall_mem_singleton] at hn ⊢
    exact ⟨fun l hl => notMem_encode (hn.1 l hl), notMem_encode hn.2⟩
  rw [hbytes, splitOn_ended hparts, splitOn_ended hn, List.map_append]
  rfl

theorem encodes_intercalate : ∀ {ls : List (List UInt8)}, (∀ l ∈ ls, Encodes l) →
    Encodes ([10].intercalate ls)
  | [], _ => ⟨[], rfl⟩
  | [l], h => by
    rw [List.intercalate_singleton]
    exact h l List.mem_cons_self
  | l :: l' :: ls, h => by
    obtain ⟨cs, rfl⟩ := h l List.mem_cons_self
    obtain ⟨rest, hrest⟩ := encodes_intercalate fun m hm => h m (List.mem_cons_of_mem _ hm)
    refine ⟨cs ++ '\n' :: rest, ?_⟩
    rw [List.intercalate_cons_cons, hrest, encode_append, List.append_assoc]
    rfl

/-- A stream is UTF-8 if and only if each of its lines is. -/
theorem isValidUTF8_iff_forall_splitOn {bytes : ByteArray} :
    bytes.IsValidUTF8 ↔ ∀ l ∈ bytes.data.toList.splitOn 10, Encodes l := by
  rw [← encodes_iff]
  constructor
  · rintro ⟨cs, hcs⟩ l hl
    rw [hcs, splitOn_encode] at hl
    obtain ⟨line, -, rfl⟩ := List.mem_map.1 hl
    exact ⟨line, rfl⟩
  · intro h
    have hjoin := encodes_intercalate h
    rwa [List.intercalate_splitOn] at hjoin

/-! ## Strict reading -/

/-- Bytes are read as the text that they encode. -/
theorem decode?_eq_some_iff {bytes : ByteArray} {s : String} :
    decode? bytes = some s ↔ bytes = s.toUTF8 := by
  unfold decode? String.fromUTF8?
  rw [String.toUTF8_eq_toByteArray]
  constructor
  · intro h
    split at h
    · cases h; rfl
    · cases h
  · rintro rfl
    rw [dif_pos s.isValidUTF8]
    rfl

theorem toUTF8_inj {a b : String} (h : a.toUTF8 = b.toUTF8) : a = b :=
  Option.some.inj ((decode?_eq_some_iff.2 h).symm.trans (decode?_eq_some_iff.2 rfl)).symm

theorem exists_toUTF8_iff {bytes : ByteArray} : (∃ s : String, bytes = s.toUTF8) ↔ bytes.IsValidUTF8 := by
  constructor
  · rintro ⟨s, rfl⟩; exact s.isValidUTF8
  · exact fun h => ⟨⟨bytes, h⟩, rfl⟩

theorem decode?_eq_none_iff {bytes : ByteArray} : decode? bytes = none ↔ ¬ bytes.IsValidUTF8 := by
  rw [Option.eq_none_iff_forall_ne_some, ← exists_toUTF8_iff, not_exists]
  exact forall_congr' fun s => not_congr decode?_eq_some_iff

end DocSearch.Text
