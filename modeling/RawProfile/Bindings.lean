/-!
# Bindings

Finite maps as lists of pairs. `Bindings.put` replaces the value of a key where it stands, or adds
the pair at the end, and `Bindings.get?` finds the value that was put last. `Bindings.modify`
changes the value of a key that has one.
-/

namespace RawProfile.Bindings

variable {κ β : Type} [DecidableEq κ]

def get? (k : κ) : List (κ × β) → Option β
  | [] => none
  | (k', v) :: rest => if k' = k then some v else get? k rest

def put (k : κ) (v : β) : List (κ × β) → List (κ × β)
  | [] => [(k, v)]
  | (k', v') :: rest => if k' = k then (k, v) :: rest else (k', v') :: put k v rest

def modify (k : κ) (f : β → β) : List (κ × β) → List (κ × β)
  | [] => []
  | (k', v) :: rest => if k' = k then (k', f v) :: rest else (k', v) :: modify k f rest

@[simp] theorem get?_put_self (k : κ) (v : β) (m : List (κ × β)) :
    get? k (put k v m) = some v := by
  induction m with
  | nil => simp [put, get?]
  | cons p rest ih =>
    by_cases h : p.1 = k
    · simp [put, get?, h]
    · simp [put, get?, h, ih]

theorem get?_put_of_ne {k k' : κ} (h : k' ≠ k) (v : β) (m : List (κ × β)) :
    get? k' (put k v m) = get? k' m := by
  induction m with
  | nil => simp [put, get?, h.symm]
  | cons p rest ih =>
    by_cases hp : p.1 = k
    · subst hp
      simp [put, get?, h.symm]
    · simp only [put, if_neg hp, get?, ih]

@[simp] theorem get?_modify_self (k : κ) (f : β → β) (m : List (κ × β)) :
    get? k (modify k f m) = (get? k m).map f := by
  induction m with
  | nil => rfl
  | cons p rest ih =>
    by_cases h : p.1 = k
    · simp [modify, get?, h]
    · simp [modify, get?, h, ih]

theorem get?_modify_of_ne {k k' : κ} (h : k' ≠ k) (f : β → β) (m : List (κ × β)) :
    get? k' (modify k f m) = get? k' m := by
  induction m with
  | nil => rfl
  | cons p rest ih =>
    by_cases hp : p.1 = k
    · subst hp
      simp [modify, get?, h.symm]
    · simp only [modify, if_neg hp, get?, ih]

end RawProfile.Bindings
