import LicenseForge.Proofs.Catalog.Lookup
import LicenseForge.Proofs.EditDistance.Table

/-!
# Which license is suggested

Going through the licenses in order keeps the first of those that are nearest so far.

* `Catalog.Found` : what has been found once some licenses have been looked at.
* `Catalog.found_nearest` : going through all of them finds the first of the nearest.
* `Catalog.Nearest` : a license is the nearest one, said by the edits that its key takes.
* `Catalog.find_suggests` : which license is found, and what is suggested when there is none.
-/

namespace LicenseForge

/-! ### Messages -/

namespace UnknownLicense

theorem message_none (id : Text) :
    message ⟨id, none⟩ = "unknown license: '".toList ++ id ++ "'".toList := List.append_nil _

theorem message_some (id s : Text) :
    message ⟨id, some s⟩ = "unknown license: '".toList ++ id ++ "'\n\nDid you mean '".toList ++ s
      ++ "'?".toList := by
  have hquote : "'\n\nDid you mean '".toList = ['\''] ++ "\n\nDid you mean '".toList := rfl
  unfold message
  rw [hquote]
  simp only [List.append_assoc]

end UnknownLicense

namespace Catalog

open Text (distance)

variable {c : Catalog} {l : License} {ls : List License} {id key : Text} {d : Nat}
  {best : Option (Nat × License)}

/-! ### Going through the licenses -/

/-- What is found among some licenses: nothing, since all are out of reach, or the first of those
at the least distance. -/
def Found (key : Text) (ls : List License) : Option (Nat × License) → Prop
  | none => ∀ l ∈ ls, reach < distance l.key key
  | some (d, l) => l ∈ ls ∧ distance l.key key = d ∧ d ≤ reach ∧
      ∀ l' ∈ ls, d ≤ distance l'.key key ∧ (distance l'.key key = d → l' = l ∨ l.Before l')

/-- A license behind all others is the nearest one if they are all farther away. -/
theorem found_append_singleton (hr : distance l.key key ≤ reach)
    (h : ∀ l' ∈ ls, distance l.key key < distance l'.key key) :
    Found key (ls ++ [l]) (some (distance l.key key, l)) := by
  refine ⟨by simp, rfl, hr, ?_⟩
  rw [List.forall_mem_append, List.forall_mem_singleton]
  refine ⟨?_, Nat.le_refl _, fun _ => .inl rfl⟩
  intro l' hl'
  have := h l' hl'
  exact ⟨by omega, fun he => by omega⟩

/-- A license behind all others changes nothing unless it is nearer. -/
theorem Found.append_singleton {b : License} (h : Found key ls (some (d, b)))
    (hb : ∀ l' ∈ ls, l'.Before l) (hd : d ≤ distance l.key key) :
    Found key (ls ++ [l]) (some (d, b)) := by
  obtain ⟨hm, he, hr, hleast⟩ := h
  refine ⟨List.mem_append_left _ hm, he, hr, ?_⟩
  rw [List.forall_mem_append, List.forall_mem_singleton]
  exact ⟨hleast, hd, fun _ => .inr (hb b hm)⟩

/-- One license more, behind all others. -/
theorem Found.concat (h : Found key ls best) (hl : ∀ l' ∈ ls, l'.Before l) :
    Found key (ls ++ [l]) (if distance l.key key ≤ reach then nearer best (distance l.key key) l
      else best) := by
  match best with
  | none =>
    split
    next hr => exact found_append_singleton hr fun l' hl' => Nat.lt_of_le_of_lt hr (h l' hl')
    next hr =>
      intro l' hl'
      rcases List.mem_append.1 hl' with hm | hm
      · exact h l' hm
      · obtain rfl := List.mem_singleton.1 hm
        exact Nat.lt_of_not_le hr
  | some (n, b) =>
    split
    next hr =>
      rw [nearer]
      split
      next hlt =>
        exact found_append_singleton hr fun l' hl' => Nat.lt_of_lt_of_le hlt (h.2.2.2 l' hl').1
      -- at the same distance the one that came first stays
      next hlt => exact h.append_singleton hl (Nat.le_of_not_lt hlt)
    next hr => exact h.append_singleton hl (h.2.2.1.trans (Nat.le_of_not_le hr))

/-- Going through licenses in order finds the first of the nearest. -/
theorem found_nearest (key : Text) (hs : ls.Pairwise License.Before) :
    Found key ls (nearest key ls) := by
  induction ls using List.reverseRecOn with
  | nil => simp [nearest, Found]
  | append_singleton ls l ih =>
    obtain ⟨hls, -, hl⟩ := List.pairwise_append.1 hs
    have hstep := (ih hls).concat fun l' hl' => hl l' hl' l (List.mem_singleton_self l)
    rwa [nearest, List.foldl_append]

/-! ### Suggestions -/

/-- Of some licenses, a license is the one whose key takes the fewest edits to become another key:
at most two, and it comes before the others that take as few. -/
structure Nearest (ls : List License) (key : Text) (d : Nat) (l : License) : Prop where
  /-- It is one of the licenses. -/
  mem : l ∈ ls
  /-- Its key takes so many edits, and no fewer. -/
  edits : IsLeast (Text.Edit.lengths l.key key) d
  /-- It is within reach. -/
  near : d ≤ 2
  /-- No other license takes fewer edits. -/
  least : ∀ l' ∈ ls, ∀ n ∈ Text.Edit.lengths l'.key key, d ≤ n
  /-- Those that take as few come behind it. -/
  first : ∀ l' ∈ ls, d ∈ Text.Edit.lengths l'.key key → l' = l ∨ l.Before l'

theorem Found.nearest (h : Found key ls (some (d, l))) : Nearest ls key d l := by
  obtain ⟨hm, rfl, hr, hleast⟩ := h
  refine ⟨hm, Text.isLeast_distance _ _, hr, ?_, ?_⟩
  · intro l' hl' n hn
    exact (hleast l' hl').1.trans ((Text.isLeast_distance _ _).2 hn)
  · intro l' hl' hd
    have hle := (Text.isLeast_distance _ _).2 hd
    exact (hleast l' hl').2 (Nat.le_antisymm hle (hleast l' hl').1)

theorem suggest?_eq_none_iff : c.suggest? id = none ↔
    ∀ l ∈ c.licenses, ∀ n ∈ Text.Edit.lengths l.key id.lowercase, 2 < n := by
  have hfound := found_nearest id.lowercase c.sorted
  rw [suggest?, Option.map_eq_none_iff]
  cases hbest : Catalog.nearest id.lowercase c.licenses with
  | none =>
    rw [hbest] at hfound
    refine iff_of_true rfl ?_
    intro l hl n hn
    exact (hfound l hl).trans_le ((Text.isLeast_distance _ _).2 hn)
  | some best =>
    rw [hbest] at hfound
    obtain ⟨d, l⟩ := best
    have hl := hfound.nearest
    refine iff_of_false (by simp) ?_
    intro h
    exact absurd hl.near (Nat.not_le.2 (h l hl.mem d hl.edits.1))

theorem nearest_of_suggest? (h : c.suggest? id = some l) :
    ∃ d, Nearest c.licenses id.lowercase d l := by
  obtain ⟨⟨d, l'⟩, hbest, rfl⟩ := Option.map_eq_some_iff.1 h
  exact ⟨d, Found.nearest (hbest ▸ found_nearest id.lowercase c.sorted)⟩

theorem find_eq_ok_iff : c.find id = .ok l ↔ l ∈ c.licenses ∧ l.key = id.lowercase := by
  rw [← get?_eq_some_iff, find]
  cases c.get? id <;> simp

theorem find_eq_error_iff {e : UnknownLicense} :
    c.find id = .error e ↔
      c.get? id = none ∧ e = ⟨id, (c.suggest? id).map License.id⟩ := by
  rw [find]
  cases c.get? id <;> simp [eq_comm]

/-- **What is found under an id, and what is suggested instead.**  A license is found just if its
key is that of the id.  Else the message has a suggestion just if one or two edits turn the key of
some license into that of the id.  The suggestion is the id, as the license spells it, of the
license whose key takes the fewest edits, and of the first one in order if several take as few; and
under the suggestion just this license is found. -/
theorem find_suggests (c : Catalog) (id : Text) :
    (∀ l, c.find id = .ok l ↔ l ∈ c.licenses ∧ l.key = id.lowercase) ∧
      ∀ e, c.find id = .error e →
        (e.suggestion.isSome ↔
          ∃ l ∈ c.licenses, ∃ n ∈ Text.Edit.lengths l.key id.lowercase, n ≤ 2) ∧
        (e.suggestion = none → e.message = "unknown license: '".toList ++ id ++ "'".toList) ∧
        ∀ s, e.suggestion = some s →
          e.message = "unknown license: '".toList ++ id ++ "'\n\nDid you mean '".toList ++ s
              ++ "'?".toList ∧
            ∃ l d, l.id = s ∧ Nearest c.licenses id.lowercase d l ∧ (d = 1 ∨ d = 2) ∧
              c.find s = .ok l := by
  refine ⟨fun l => find_eq_ok_iff, ?_⟩
  intro e he
  obtain ⟨hnone, rfl⟩ := find_eq_error_iff.1 he
  refine ⟨?_, ?_, ?_⟩
  · rw [Option.isSome_map, Option.isSome_iff_ne_none, Ne, suggest?_eq_none_iff]
    simp only [not_forall, exists_prop, Nat.not_lt]
  · intro hs
    rw [show (c.suggest? id).map License.id = none from hs, UnknownLicense.message_none]
  · intro s hs
    obtain ⟨l, hl, rfl⟩ := Option.map_eq_some_iff.1 hs
    obtain ⟨d, hd⟩ := nearest_of_suggest? hl
    refine ⟨?_, l, d, rfl, hd, ?_, find_eq_ok_iff.2 ⟨hd.mem, rfl⟩⟩
    · rw [hl, Option.map_some, UnknownLicense.message_some]
    · -- without an edit it would be the license that was asked for
      have hpos : d ≠ 0 := by
        rintro rfl
        have hkey := Text.Edit.zero_mem_lengths_iff.1 hd.edits.1
        rw [get?_eq_some_iff.2 ⟨hd.mem, hkey⟩] at hnone
        cases hnone
      have := hd.near
      omega

/-- Two licenses are one edit away: the one whose key comes first is suggested, in its own
spelling. -/
theorem find_suggests_tie :
    let c : Catalog := ((empty.insert { id := "mix".toList }).insert { id := "MIT".toList }).insert
      { id := "ISC".toList }
    let e : UnknownLicense := ⟨"MI".toList, some "MIT".toList⟩
    c.find "MI".toList = .error e ∧
      (e.suggestion.isSome ↔
        ∃ l ∈ c.licenses, ∃ n ∈ Text.Edit.lengths l.key (Text.lowercase "MI".toList), n ≤ 2) ∧
      e.message = "unknown license: '".toList ++ "MI".toList ++ "'\n\nDid you mean '".toList
        ++ "MIT".toList ++ "'?".toList ∧
      ∃ l d, l.id = "MIT".toList ∧ Nearest c.licenses (Text.lowercase "MI".toList) d l ∧
        (d = 1 ∨ d = 2) ∧ c.find "MIT".toList = .ok l := by
  intro c e
  have he : c.find "MI".toList = .error e := by decide +kernel
  obtain ⟨hsome, -, hs⟩ := (find_suggests c "MI".toList).2 e he
  exact ⟨he, hsome, hs _ rfl⟩

end Catalog

end LicenseForge
