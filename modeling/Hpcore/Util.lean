import Mathlib.Data.Finset.Sort
import Mathlib.Data.List.Lex
import Mathlib.Order.Fin.Basic

/-! # Bytes, hashes and the standard containers of hpcore

`std::string` buffers and flatbuffers `[ubyte]` vectors are lists of bytes.
`util::h32` is a 32-byte digest whose length is part of its type, and
`std::set<std::string>` is a finite set iterated in increasing order, as the
encoders iterate it. Unsigned C++ arithmetic is written on `Nat` with its
wrap-around made explicit. -/

namespace Hpcore

/-- A byte of a `std::string` or a `[ubyte]` vector. -/
abbrev Byte := Fin 256

abbrev Bytes := List Byte

/-- `util::h32`: a blake3 digest, 32 bytes. -/
structure H32 where
  bytes : Bytes
  length_eq : bytes.length = 32
  deriving DecidableEq

namespace H32

/-- `util::h32_empty`, the zero hash used as the "no hash" sentinel. -/
def empty : H32 := ⟨List.replicate 32 0, rfl⟩

/-- `h32::operator=(std::string_view)` and `flatbuf_bytes_to_hash`: the first 32
bytes of a buffer (`h32.cpp` is not part of the sources; a shorter buffer is
padded with zero bytes). -/
def ofBytes (b : Bytes) : H32 :=
  ⟨(b ++ List.replicate 32 0).take 32, by simp⟩

/-- A hash whose 32 bytes all equal `b`; used for concrete runs. -/
def fill (b : Byte) : H32 := ⟨List.replicate 32 b, by simp⟩

@[simp] theorem ofBytes_bytes (h : H32) : ofBytes h.bytes = h := by
  obtain ⟨b, hb⟩ := h
  simp [ofBytes, ← hb]

theorem bytes_injective : Function.Injective H32.bytes := by
  rintro ⟨a, _⟩ ⟨b, _⟩ h
  cases h; rfl

end H32

/-- The first `n` blocks of 32 bytes of a buffer, as hashes. -/
def bytesToHashes : Nat → Bytes → List H32
  | 0, _ => []
  | n + 1, b => H32.ofBytes (b.take 32) :: bytesToHashes n (b.drop 32)

/-- `util::sequence_hash`: a ledger point `(seq_no, hash)`. -/
structure SequenceHash where
  seqNo : Nat
  hash : H32
  deriving DecidableEq

/-! ## `std::set<std::string>` -/

/-- Iteration over a `std::set`: increasing order. -/
def setToList (s : Finset Bytes) : List Bytes := s.sort (· ≤ ·)

/-- A `std::set` built by `emplace`-ing the elements of a list in order. -/
def listToSet (l : List Bytes) : Finset Bytes := l.foldl (fun s x => insert x s) ∅

theorem foldl_insert_eq (l : List Bytes) (s : Finset Bytes) :
    l.foldl (fun s x => insert x s) s = s ∪ l.toFinset := by
  induction l generalizing s with
  | nil => simp
  | cons x l ih =>
    rw [List.foldl_cons, ih, List.toFinset_cons, Finset.insert_union, Finset.union_insert]

@[simp] theorem listToSet_eq_toFinset (l : List Bytes) : listToSet l = l.toFinset := by
  simp [listToSet, foldl_insert_eq]

/-- Emplacing the elements of a set, in its iteration order, rebuilds the set. -/
@[simp] theorem listToSet_setToList (s : Finset Bytes) : listToSet (setToList s) = s := by
  simp [setToList, Finset.sort_toFinset]

@[simp] theorem setToList_insert_empty (b : Bytes) : setToList (insert b ∅) = [b] := by
  simp [setToList]

/-! ## Unsigned arithmetic -/

/-- A `uint32_t` product or sum: the value modulo `2^32`. -/
def u32 (n : Nat) : Nat := n % 2 ^ 32

/-- `a - b` on `uint64_t`, for `b < 2^64`. -/
def sub64 (a b : Nat) : Nat := (a + 2 ^ 64 - b) % 2 ^ 64

theorem u32_of_lt {n : Nat} (h : n < 2 ^ 32) : u32 n = n := Nat.mod_eq_of_lt h

theorem sub64_of_le {a b : Nat} (hb : b ≤ a) (ha : a < 2 ^ 64) : sub64 a b = a - b := by
  unfold sub64
  rw [show a + 2 ^ 64 - b = (a - b) + 2 ^ 64 by omega, Nat.add_mod_right]
  exact Nat.mod_eq_of_lt (by omega)

end Hpcore
