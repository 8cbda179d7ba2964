import RawProfile.Word

/-!
# Address spans

A span is a half-open range of addresses. `ofLength` clamps at the top of the address space, and
`hull` is the smallest span over two others, bound by bound: it also stretches to the bounds of an
empty span.
-/

namespace RawProfile

/-- The addresses from `start` up to, and without, `limit`. -/
structure Span where
  start : UInt64
  limit : UInt64
  deriving DecidableEq, Repr

namespace Span

/-- The span that stands for a section in which nothing was registered. -/
def zero : Span := ⟨0, 0⟩

/-- The `length` addresses from `start`, less those past the largest word. -/
def ofLength (start length : UInt64) : Span := ⟨start, Word.addClamped start length⟩

/-- The number of addresses; none when the limit lies below the start. -/
def length (s : Span) : UInt64 := Word.subClamped s.limit s.start

def isEmpty (s : Span) : Bool := s.start ≥ s.limit

/-- The smallest span that reaches the bounds of both. -/
def hull (s t : Span) : Span := ⟨min s.start t.start, max s.limit t.limit⟩

theorem toNat_length (s : Span) : s.length.toNat = s.limit.toNat - s.start.toNat :=
  Word.toNat_subClamped _ _

theorem toNat_limit_ofLength (start length : UInt64) :
    (ofLength start length).limit.toNat = min (start.toNat + length.toNat) (UInt64.size - 1) :=
  Word.toNat_addClamped _ _

theorem toNat_start_hull (s t : Span) :
    (s.hull t).start.toNat = min s.start.toNat t.start.toNat :=
  Word.toNat_min _ _

theorem toNat_limit_hull (s t : Span) :
    (s.hull t).limit.toNat = max s.limit.toNat t.limit.toNat :=
  Word.toNat_max _ _

theorem ext_toNat {s t : Span} (hs : s.start.toNat = t.start.toNat)
    (hl : s.limit.toNat = t.limit.toNat) : s = t := by
  cases s
  cases t
  simp_all [UInt64.toNat_inj]

theorem hull_comm (s t : Span) : s.hull t = t.hull s :=
  ext_toNat (by simp only [toNat_start_hull, Nat.min_comm])
    (by simp only [toNat_limit_hull, Nat.max_comm])

theorem hull_assoc (s t u : Span) : (s.hull t).hull u = s.hull (t.hull u) :=
  ext_toNat (by simp only [toNat_start_hull, Nat.min_assoc])
    (by simp only [toNat_limit_hull, Nat.max_assoc])

@[simp] theorem hull_self (s : Span) : s.hull s = s :=
  ext_toNat (by simp only [toNat_start_hull, Nat.min_self])
    (by simp only [toNat_limit_hull, Nat.max_self])

end Span

end RawProfile
