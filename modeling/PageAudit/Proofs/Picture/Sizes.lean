import PageAudit.Picture.Png

/-!
# Sizes of pictures

The bytes of a picture are counted part by part. As nothing is compressed, their number depends on the
width and the height of the canvas alone.
-/

namespace PageAudit.Png

theorem size_pushAll (bytes : ByteArray) (more : List UInt8) :
    (pushAll bytes more).size = bytes.size + more.length := by
  induction more generalizing bytes with
  | nil => rfl
  | cons b rest ih =>
      rw [pushAll, List.foldl_cons, ← pushAll, ih, ByteArray.size_push, List.length_cons]
      omega

theorem size_ofList (bytes : List UInt8) : (ofList bytes).size = bytes.length := by
  rw [ofList, size_pushAll, ByteArray.size_empty, Nat.zero_add]

theorem length_word (n : Nat) : (word n).length = 4 := rfl

theorem size_chunk (kind : List UInt8) (data : ByteArray) :
    (chunk kind data).size = kind.length + data.size + 8 := by
  simp only [chunk, ByteArray.size_append, size_ofList, length_word]
  omega

/-- The size of bytes to which every step adds the same number. -/
theorem size_foldl {A : Type} (step : ByteArray → A → ByteArray) (n : Nat)
    (hstep : ∀ bytes a, (step bytes a).size = bytes.size + n) (xs : List A) (bytes : ByteArray) :
    (xs.foldl step bytes).size = bytes.size + xs.length * n := by
  induction xs generalizing bytes with
  | nil => rw [List.foldl_nil, List.length_nil, Nat.zero_mul, Nat.add_zero]
  | cons x rest ih =>
      rw [List.foldl_cons, ih, hstep, List.length_cons, Nat.succ_mul]
      omega

theorem size_scanlines (c : Canvas) : (scanlines c).size = c.height * (1 + c.width * 3) := by
  have hrow (bytes : ByteArray) (y : Nat) :
      ((c.row y).foldl (fun bytes p => ((bytes.push p.red).push p.green).push p.blue)
        (bytes.push 0)).size = bytes.size + (1 + c.width * 3) := by
    rw [size_foldl _ 3 fun bytes p => by simp only [ByteArray.size_push]]
    simp only [ByteArray.size_push, Canvas.row, List.length_map, List.length_range]
    omega
  rw [scanlines, size_foldl _ _ hrow, List.length_range, ByteArray.size_empty, Nat.zero_add]

theorem size_storedBlocks {bytes : ByteArray} (hsize : bytes.size ≤ blockLimit) (acc : ByteArray) :
    (storedBlocks bytes 0 acc).size = acc.size + bytes.size + 5 := by
  rw [storedBlocks]
  simp only [Nat.zero_add, Nat.min_eq_right hsize, hsize, if_true]
  simp [ByteArray.size_append, size_pushAll, shortWord]
  omega

/-- The size of a picture that has no more rows than a single block can hold. -/
theorem size_encode {c : Canvas} {bytes : ByteArray} (h : encode c = .ok bytes)
    (hsize : c.height * (1 + c.width * 3) ≤ blockLimit) :
    bytes.size = c.height * (1 + c.width * 3) + 68 := by
  have hheader : headerKind.length = 4 := by decide +kernel
  have hdata : dataKind.length = 4 := by decide +kernel
  have hend : endKind.length = 4 := by decide +kernel
  unfold encode at h
  split at h
  · cases h
  split at h
  · cases h
  cases h
  rw [← size_scanlines] at hsize ⊢
  simp only [ByteArray.size_append, size_ofList, size_chunk, packed, size_storedBlocks hsize,
    List.length_append, length_word, ByteArray.size_empty, hheader, hdata, hend, signature, format,
    List.length_cons, List.length_nil]
  omega

end PageAudit.Png
