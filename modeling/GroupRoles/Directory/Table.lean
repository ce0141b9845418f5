/-!
# Tables

A table gives each of finitely many keys a value and every other key a default.
-/

namespace GroupRoles

/-- A table from `κ` to `ν`. -/
structure Table (κ ν : Type) where
  entries : List (κ × ν) := []
deriving Repr

namespace Table

variable {κ ν : Type} [DecidableEq κ]

/-- The first value under a key. -/
def find (k : κ) : List (κ × ν) → Option ν
  | [] => none
  | (l, v) :: rest => if l = k then some v else find k rest

/-- Changes the first value under a key, or adds one to the end. -/
def alter (k : κ) (f : Option ν → ν) : List (κ × ν) → List (κ × ν)
  | [] => [(k, f none)]
  | (l, v) :: rest => if l = k then (l, f (some v)) :: rest else (l, v) :: alter k f rest

/-- The value under a key, if it has one. -/
def get? (t : Table κ ν) (k : κ) : Option ν :=
  find k t.entries

/-- The value under a key, or the default. -/
def get [Inhabited ν] (t : Table κ ν) (k : κ) : ν :=
  (t.get? k).getD default

/-- Whether a key has a value. -/
def has (t : Table κ ν) (k : κ) : Bool :=
  (t.get? k).isSome

/-- Changes the value under a key, which is the default if it has none. -/
def update [Inhabited ν] (t : Table κ ν) (k : κ) (f : ν → ν) : Table κ ν :=
  ⟨alter k (fun v => f (v.getD default)) t.entries⟩

theorem find_alter (k l : κ) (f : Option ν → ν) (es : List (κ × ν)) :
    find l (alter k f es) = if l = k then some (f (find k es)) else find l es := by
  induction es with
  | nil =>
    by_cases h : l = k
    · simp [alter, find, h]
    · simp [alter, find, h, Ne.symm h]
  | cons e rest ih =>
    obtain ⟨m, v⟩ := e
    by_cases hm : m = k
    · by_cases hl : l = k
      · simp [alter, find, hm, hl]
      · simp [alter, find, hm, hl, Ne.symm hl]
    · by_cases hl : l = k
      · subst hl
        simp [alter, find, hm, ih]
      · by_cases hml : m = l <;> simp [alter, find, hm, hl, hml, ih]

/-- An update shows under its own key and nowhere else. -/
theorem get?_update [Inhabited ν] (t : Table κ ν) (k l : κ) (f : ν → ν) :
    (t.update k f).get? l = if l = k then some (f (t.get k)) else t.get? l :=
  find_alter k l _ t.entries

@[simp]
theorem get_update_self [Inhabited ν] (t : Table κ ν) (k : κ) (f : ν → ν) :
    (t.update k f).get k = f (t.get k) := by
  simp [get, get?_update]

theorem alter_alter (k : κ) (f g : Option ν → ν) (es : List (κ × ν)) :
    alter k g (alter k f es) = alter k (fun v => g (some (f v))) es := by
  induction es with
  | nil => simp [alter]
  | cons e rest ih =>
    obtain ⟨l, v⟩ := e
    by_cases h : l = k <;> simp [alter, h, ih]

/-- Two updates under one key are one. -/
theorem update_update [Inhabited ν] (t : Table κ ν) (k : κ) (f g : ν → ν) :
    (t.update k f).update k g = t.update k (g ∘ f) := by
  simp only [update, alter_alter]
  rfl

theorem get_update_of_ne [Inhabited ν] (t : Table κ ν) {k l : κ} (f : ν → ν) (h : l ≠ k) :
    (t.update k f).get l = t.get l := by
  simp [get, get?_update, h]

end Table

end GroupRoles
