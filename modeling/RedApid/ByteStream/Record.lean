import Mathlib.Algebra.GroupWithZero.Nat
import Mathlib.Data.List.Basic

namespace RedApid.ByteStream

-- A member of a packed record, with the number of bytes it takes.
structure Member (ν : Type*) where
  name : ν
  size : Nat
deriving DecidableEq, Repr

-- Exactly `size` bytes: what is missing is zero, what is too much is cut off.
def fit (size : Nat) (bytes : List UInt8) : List UInt8 :=
  bytes.take size ++ List.replicate (size - bytes.length) 0

@[simp] theorem fit_length (size : Nat) (bytes : List UInt8) : (fit size bytes).length = size := by
  simp only [fit, List.length_append, List.length_take, List.length_replicate]
  omega

namespace Record

section Pack

variable {ν : Type*} (fields : List (Member ν))

def size : Nat := (fields.map Member.size).sum

-- The members follow each other without any gaps.
def pack (values : ν → List UInt8) : List UInt8 :=
  fields.flatMap fun field => fit field.size (values field.name)

variable {fields}

@[simp] theorem size_nil : size ([] : List (Member ν)) = 0 := rfl

@[simp] theorem size_cons (field : Member ν) (fields : List (Member ν)) :
    size (field :: fields) = field.size + size fields := rfl

theorem pack_cons (field : Member ν) (fields : List (Member ν)) (values : ν → List UInt8) :
    pack (field :: fields) values = fit field.size (values field.name) ++ pack fields values :=
  List.flatMap_cons

@[simp] theorem pack_length (values : ν → List UInt8) : (pack fields values).length = size fields := by
  induction fields with
  | nil => rfl
  | cons field fields ih => rw [pack_cons, List.length_append, fit_length, ih, size_cons]

end Pack

section Member

variable {ν : Type*} [DecidableEq ν] {fields : List (Member ν)}

-- The bytes of the first member with this name.
def member (name : ν) : List (Member ν) → List UInt8 → List UInt8
  | [], _ => []
  | field :: fields, bytes =>
      if field.name = name then bytes.take field.size
      else member name fields (bytes.drop field.size)

-- What was packed is read back.
theorem member_pack (hnames : (fields.map Member.name).Nodup) {field : Member ν}
    (hfield : field ∈ fields) (values : ν → List UInt8) :
    member field.name fields (pack fields values) = fit field.size (values field.name) := by
  induction fields with
  | nil => cases hfield
  | cons first fields ih =>
      rw [List.map_cons, List.nodup_cons] at hnames
      rw [pack_cons, member]
      rcases List.mem_cons.mp hfield with rfl | hrest
      · rw [if_pos rfl, List.take_left' (fit_length _ _)]
      · have hne : first.name ≠ field.name := by
          intro hsame
          exact hnames.1 (hsame ▸ List.mem_map_of_mem hrest)
        rw [if_neg hne, List.drop_left' (fit_length _ _)]
        exact ih hnames.2 hrest

end Member

end Record

end RedApid.ByteStream
