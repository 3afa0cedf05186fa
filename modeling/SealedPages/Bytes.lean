/-
  SealedPages.Bytes
  ─────────────────
  **RUNS OF BYTES.**  The contents of a region, and the data that goes into it
  and comes out of it, are lists of bytes.  A part of such a run is named by an
  offset and a length.

  Main statements:
    * `length_patch`  — overwriting a part keeps the length of the run;
    * `getElem?_patch` — overwriting a part shows in that part alone;
    * `patch_zero`    — data that fits takes the place of the first bytes;
    * `wipe_all`      — wiping a whole run leaves only zeros.
-/

namespace SealedPages

/-- A run of bytes. -/
abbrev Bytes := List UInt8

namespace Bytes

/-- A run of `n` zeros. -/
def zeros (n : Nat) : Bytes :=
  List.replicate n 0

/-- The bytes other than zero. -/
def nonzero (bytes : Bytes) : Nat :=
  bytes.countP (· != 0)

/-- The `len` bytes from `off` on, or as many as there are. -/
def slice (bytes : Bytes) (off len : Nat) : Bytes :=
  (bytes.drop off).take len

/-- Overwrite the bytes from `off` on with `data`; what would reach past the end
of the run is left out. -/
def patch (bytes : Bytes) (off : Nat) (data : Bytes) : Bytes :=
  bytes.take off ++ (data.take (bytes.length - off) ++ bytes.drop (off + data.length))

/-- Overwrite `len` bytes from `off` on with one value. -/
def fill (bytes : Bytes) (off len : Nat) (value : UInt8) : Bytes :=
  patch bytes off (List.replicate (min len (bytes.length - off)) value)

/-- Overwrite `len` bytes from `off` on with zeros. -/
def wipe (bytes : Bytes) (off len : Nat) : Bytes :=
  fill bytes off len 0

@[simp] theorem length_zeros (n : Nat) : (zeros n).length = n := by
  simp [zeros]

@[simp] theorem length_patch (bytes : Bytes) (off : Nat) (data : Bytes) :
    (patch bytes off data).length = bytes.length := by
  simp only [patch, List.length_append, List.length_take, List.length_drop]
  omega

@[simp] theorem length_fill (bytes : Bytes) (off len : Nat) (value : UInt8) :
    (fill bytes off len value).length = bytes.length :=
  length_patch ..

@[simp] theorem length_wipe (bytes : Bytes) (off len : Nat) :
    (wipe bytes off len).length = bytes.length :=
  length_fill ..

/-- **Byte by byte, overwriting a part shows in that part alone.** -/
theorem getElem?_patch (bytes data : Bytes) (off i : Nat) :
    (patch bytes off data)[i]? =
      if off ≤ i ∧ i < off + data.length ∧ i < bytes.length then data[i - off]? else bytes[i]? := by
  have hlen : (bytes.take off).length = min off bytes.length := List.length_take
  rw [patch, List.getElem?_append, hlen, List.getElem?_append, List.length_take]
  by_cases hi : i < bytes.length
  · by_cases hlt : i < off
    · -- before the part
      rw [if_pos (by omega), if_neg (by omega), List.getElem?_take, if_pos hlt]
    · rw [if_neg (by omega)]
      by_cases hin : i < off + data.length
      · -- inside the part
        rw [if_pos (by omega), if_pos (by omega), List.getElem?_take, if_pos (by omega)]
        congr 1
        omega
      · -- behind the part
        rw [if_neg (by omega), if_neg (by omega), List.getElem?_drop]
        congr 1
        omega
  · -- past the end of the run
    have hnone : bytes[i]? = none := List.getElem?_eq_none (by omega)
    rw [if_neg (by omega), if_neg (by omega), if_neg (by omega), List.getElem?_drop, hnone]
    exact List.getElem?_eq_none (by omega)

/-- Data that fits takes the place of the first bytes. -/
theorem patch_zero {bytes data : Bytes} (h : data.length ≤ bytes.length) :
    patch bytes 0 data = data ++ bytes.drop data.length := by
  rw [patch, List.take_zero, List.nil_append, Nat.sub_zero, List.take_of_length_le h, Nat.zero_add]

/-- Wiping a whole run leaves only zeros. -/
theorem wipe_all (bytes : Bytes) : wipe bytes 0 bytes.length = zeros bytes.length := by
  simp [wipe, fill, patch, zeros]

end Bytes

end SealedPages
