import TagOrigin.Text

/-!
Registers: finite maps from texts that remember the order in which their keys were first written.
Writing a key again changes its value and keeps its place.
-/
namespace TagOrigin

/-- Entries in the order of the first write of their keys. -/
abbrev Register (α : Type) := List (Text × α)

namespace Register

/-- Writes a value: in place if the key is present, else at the end. -/
def put {α : Type} (key : Text) (value : α) : Register α → Register α
  | [] => [(key, value)]
  | (k, v) :: rest => if k = key then (key, value) :: rest else (k, v) :: put key value rest

/-- The value of a key. -/
def get? {α : Type} (key : Text) : Register α → Option α
  | [] => none
  | (k, v) :: rest => if k = key then some v else get? key rest

/-- Forgets a key. -/
def erase {α : Type} (key : Text) (register : Register α) : Register α :=
  register.filter fun entry => entry.1 ≠ key

/-- The keys in order. -/
def keys {α : Type} (register : Register α) : List Text :=
  register.map Prod.fst

/-- Writes a sequence of entries, later ones over earlier ones. -/
def putAll {α : Type} (entries : List (Text × α)) (register : Register α) : Register α :=
  entries.foldl (fun r entry => put entry.1 entry.2 r) register

/-- Reading the key just written gives the value written. -/
@[simp] theorem get?_put_self {α : Type} (key : Text) (value : α) (r : Register α) :
    get? key (put key value r) = some value := by
  induction r with
  | nil => simp [put, get?]
  | cons entry rest ih =>
    obtain ⟨k, v⟩ := entry
    by_cases h : k = key <;> simp [put, get?, h, ih]

/-- A write leaves every other key alone. -/
theorem get?_put_of_ne {α : Type} {key other : Text} (value : α) (r : Register α)
    (h : other ≠ key) : get? other (put key value r) = get? other r := by
  induction r with
  | nil => simp [put, get?, Ne.symm h]
  | cons entry rest ih =>
    obtain ⟨k, v⟩ := entry
    by_cases hk : k = key
    · subst hk
      simp [put, get?, Ne.symm h]
    · rw [put, if_neg hk, get?, get?, ih]

/-- A write keeps the keys, or adds its own at the end. -/
theorem keys_put {α : Type} (key : Text) (value : α) (r : Register α) :
    keys (put key value r) = if key ∈ keys r then keys r else keys r ++ [key] := by
  induction r with
  | nil => simp [put, keys]
  | cons entry rest ih =>
    obtain ⟨k, v⟩ := entry
    by_cases h : k = key
    · simp [put, keys, h]
    · by_cases member : key ∈ keys rest
      · simp only [keys] at ih member
        simp [put, keys, h, ih, member]
      · simp only [keys] at ih member
        simp [put, keys, h, Ne.symm h, ih, member]

/-- A write keeps the keys distinct. -/
theorem nodup_keys_put {α : Type} (key : Text) (value : α) {r : Register α}
    (h : (keys r).Nodup) : (keys (put key value r)).Nodup := by
  rw [keys_put]
  split
  · exact h
  · next absent =>
    refine List.nodup_append.2 ⟨h, by simp, ?_⟩
    intro a member b single same
    rw [List.mem_singleton.1 single] at same
    exact absent (same ▸ member)

end Register

end TagOrigin
