import LicenseForge.FileTree.Save

/-!
# Where a route leads

A route is taken step by step, and a file that is written changes what later routes meet.  Here a
route that comes to an end is described by a derivation, with one rule for each kind of step.

* `FileTree.Leads` : a route leads to a place.
* `FileTree.walk_eq_ok_iff` : taking the steps of a route gives the place to which it leads.
* `FileTree.locate_put` : once a file is put where a path leads, the path leads to the file.
-/

namespace LicenseForge

/-- To look at what is there, and at a symbolic link rather than through it. -/
def Manner.look : Manner := ⟨false, false⟩

/-- The path of the file that is there or can be created. -/
def Place.target? : Place → Option Path
  | found p (.file _) => some p
  | free p => some p
  | _ => none

namespace FileTree

/-- A step to a node that is named, which the manner of the route admits. -/
structure Admits (m : Manner) (step : Text) (rest : List Text) (slash : Bool) : Prop where
  /-- The step does not stay. -/
  ne_dot : step ≠ ['.']
  /-- The step does not leave the folder. -/
  ne_dots : step ≠ ['.', '.']
  /-- A slash follows no name of a file that is to be created. -/
  not_folder : ¬(rest = [] ∧ slash ∧ m.creates)
  /-- The name is not too long. -/
  short : step.encode.length ≤ nameLimit

instance (m : Manner) (step : Text) (rest : List Text) (slash : Bool) :
    Decidable (Admits m step rest slash) :=
  decidable_of_iff (step ≠ ['.'] ∧ step ≠ ['.', '.'] ∧ ¬(rest = [] ∧ slash ∧ m.creates) ∧
      step.encode.length ≤ nameLimit)
    ⟨fun ⟨hd, hdd, hf, hs⟩ => ⟨hd, hdd, hf, hs⟩,
      fun h => ⟨h.ne_dot, h.ne_dots, h.not_folder, h.short⟩⟩

/-- The steps of a route lead from a folder to a place, through at most so many symbolic links. -/
inductive Leads (t : FileTree) (m : Manner) :
    Nat → Path → List Text → Bool → Place → Prop
  /-- The route ends in the folder that it has reached. -/
  | done {links here slash} : Leads t m links here [] slash (.found here .folder)
  /-- The route stays in the folder. -/
  | stay {links here rest slash place} (h : Leads t m links here rest slash place) :
      Leads t m links here (['.'] :: rest) slash place
  /-- The route leaves the folder. -/
  | leave {links here rest slash place} (h : Leads t m links here.dropLast rest slash place) :
      Leads t m links here (['.', '.'] :: rest) slash place
  /-- Nothing has the last name. -/
  | free {links here step} (ha : Admits m step [] false) (hn : t.get? (here ++ [step]) = none) :
      Leads t m links here [step] false (.free (here ++ [step]))
  /-- A file has the last name. -/
  | file {links here step content} (ha : Admits m step [] false)
      (hn : t.get? (here ++ [step]) = some (.file content)) :
      Leads t m links here [step] false (.found (here ++ [step]) (.file content))
  /-- The route enters a folder. -/
  | enter {links here step rest slash place} (ha : Admits m step rest slash)
      (hn : t.get? (here ++ [step]) = some .folder)
      (h : Leads t m links (here ++ [step]) rest slash place) :
      Leads t m links here (step :: rest) slash place
  /-- A symbolic link has the last name, and is not followed. -/
  | link {links here step target} (ha : Admits m step [] false) (hm : m.follows = false)
      (hn : t.get? (here ++ [step]) = some (.link target)) :
      Leads t m links here [step] false (.found (here ++ [step]) (.link target))
  /-- The route goes through a symbolic link. -/
  | follow {links here step rest slash target place} (ha : Admits m step rest slash)
      (hm : rest = [] → slash = false → m.follows = true)
      (hn : t.get? (here ++ [step]) = some (.link target))
      (h : Leads t m links (if (Route.ofText target).absolute then [] else here)
        ((Route.ofText target).steps ++ rest)
        (slash || rest.isEmpty && (Route.ofText target).slash) place) :
      Leads t m (links + 1) here (step :: rest) slash place

variable {t : FileTree} {m : Manner} {links : Nat} {here p : Path} {steps rest : List Text}
  {step path : Text} {slash : Bool} {place : Place}

theorem admits_of_guards (hd : step ≠ ['.']) (hdd : step ≠ ['.', '.'])
    (hg : ¬(rest.isEmpty && slash && m.creates) = true) (hs : ¬step.encode.length > nameLimit) :
    Admits m step rest slash where
  ne_dot := hd
  ne_dots := hdd
  not_folder := by simpa using hg
  short := Nat.le_of_not_lt hs

theorem leads_of_walk (h : t.walk m links here steps slash = .ok place) :
    Leads t m links here steps slash place := by
  fun_induction walk t m links here steps slash with
  | case1 => cases h; exact .done
  | case2 _ _ _ _ ih => exact .stay (ih h)
  | case3 _ _ _ _ _ ih => exact .leave (ih h)
  | case6 _ _ _ _ _ hd hdd hg hs hn he =>
    cases h
    obtain ⟨rfl, rfl⟩ : _ = [] ∧ _ = false := by simpa using he
    exact .free (admits_of_guards hd hdd hg hs) hn
  | case8 _ _ _ _ _ hd hdd hg hs hn ih =>
    exact .enter (admits_of_guards hd hdd hg hs) hn (ih h)
  | case9 _ _ _ _ _ hd hdd hg hs content hn he =>
    cases h
    obtain ⟨rfl, rfl⟩ : _ = [] ∧ _ = false := by simpa using he
    exact .file (admits_of_guards hd hdd hg hs) hn
  | case11 _ _ _ _ _ hd hdd hg hs target hn he =>
    cases h
    obtain ⟨⟨rfl, rfl⟩, hm⟩ : (_ = [] ∧ _ = false) ∧ _ := by simpa using he
    exact .link (admits_of_guards hd hdd hg hs) hm hn
  | case13 _ _ _ _ hd hdd hg hs target hn he links route ih =>
    refine .follow (admits_of_guards hd hdd hg hs) (fun hr hl => ?_) hn (ih h)
    simpa [hr, hl] using he
  -- all other steps end in an error
  | _ => cases h

theorem Admits.walk_eq (ha : Admits m step rest slash) :
    t.walk m links here (step :: rest) slash = match t.get? (here ++ [step]) with
      | none => if rest.isEmpty && !slash then .ok (.free (here ++ [step])) else .error .notFound
      | some .folder => t.walk m links (here ++ [step]) rest slash
      | some (.file content) =>
        if rest.isEmpty && !slash then .ok (.found (here ++ [step]) (.file content))
        else .error .notFolder
      | some (.link target) =>
        if rest.isEmpty && !slash && !m.follows then
          .ok (.found (here ++ [step]) (.link target))
        else match links with
          | 0 => .error .tooManyLinks
          | links + 1 =>
            t.walk m links (if (Route.ofText target).absolute then [] else here)
              ((Route.ofText target).steps ++ rest)
              (slash || rest.isEmpty && (Route.ofText target).slash) := by
  have hw := walk.eq_def t m links here (step :: rest) slash
  have hg : ¬(rest.isEmpty && slash && m.creates) = true := by simpa using ha.not_folder
  simp only [if_neg ha.ne_dot, if_neg ha.ne_dots, if_neg hg,
    if_neg (Nat.not_lt.2 ha.short)] at hw
  exact hw

theorem walk_of_leads (h : Leads t m links here steps slash place) :
    t.walk m links here steps slash = .ok place := by
  induction h with
  | done => rw [walk]
  | stay _ ih => rw [walk, if_pos rfl, ih]
  | leave _ ih => rw [walk, if_neg (by decide), if_pos rfl, ih]
  | free ha hn => rw [ha.walk_eq, hn]; rfl
  | file ha hn => rw [ha.walk_eq, hn]; rfl
  | enter ha hn _ ih => rw [ha.walk_eq, hn]; exact ih
  | link ha hm hn => rw [ha.walk_eq, hn]; simp [hm]
  | @follow links here step rest slash target place ha hm hn _ ih =>
    have he : ¬(rest.isEmpty && !slash && !m.follows) = true := by simpa using hm
    rw [ha.walk_eq, hn]
    simp only [if_neg he]
    exact ih

/-- **Taking the steps of a route** gives the place to which it leads. -/
theorem walk_eq_ok_iff :
    t.walk m links here steps slash = .ok place ↔ Leads t m links here steps slash place :=
  ⟨leads_of_walk, walk_of_leads⟩

/-! ### The place at the end -/

/-- What a tree has to hold for a route to lead to a place. The folder in which a route ends need
not be an entry. -/
def Holds (t : FileTree) : Place → Prop
  | .free p => p ≠ [] ∧ t.get? p = none
  | .found _ .folder => True
  | .found p n => p ≠ [] ∧ t.get? p = some n

theorem Leads.holds (h : Leads t m links here steps slash place) : t.Holds place := by
  induction h with
  | done => exact trivial
  | stay _ ih => exact ih
  | leave _ ih => exact ih
  | free _ hn => exact ⟨by simp, hn⟩
  | file _ hn => exact ⟨by simp, hn⟩
  | enter _ _ _ ih => exact ih
  | link _ _ hn => exact ⟨by simp, hn⟩
  | follow _ _ _ _ ih => exact ih

/-- A place for a file is not the root, and at most a file is there. -/
theorem Holds.get?_target (h : t.Holds place) (hp : p ∈ place.target?) :
    p ≠ [] ∧ ∀ n, t.get? p = some n → ∃ content, n = .file content := by
  cases place with
  | free q =>
    obtain rfl := Option.some.inj hp
    exact ⟨h.1, fun n hn => by rw [h.2] at hn; cases hn⟩
  | found q n =>
    cases n with
    | folder => cases hp
    | link target => cases hp
    | file content =>
      obtain rfl := Option.some.inj hp
      exact ⟨h.1, fun n hn => ⟨content, Option.some.inj (hn ▸ h.2)⟩⟩

/-! ### Manners -/

/-- What is to be written is no folder, so that no slash follows its name. -/
theorem Leads.slash_eq_false (h : Leads t m links here steps slash place)
    (hp : p ∈ place.target?) : slash = false := by
  induction h with
  | done => cases hp
  | stay _ ih => exact ih hp
  | leave _ ih => exact ih hp
  | free => rfl
  | file => rfl
  | enter _ _ _ ih => exact ih hp
  | link => cases hp
  | follow _ _ _ _ ih => exact (Bool.or_eq_false_iff.1 (ih hp)).1

/-- Where there is something behind a symbolic link, there is something in front of it: the link. -/
theorem Leads.not_follows {n : Node} (h : Leads t m links here steps slash (.found p n)) :
    ∃ q n', Leads t ⟨m.creates, false⟩ links here steps slash (.found q n') := by
  have hadmits {step rest slash} (ha : Admits m step rest slash) :
      Admits ⟨m.creates, false⟩ step rest slash := { ha with }
  generalize hplace : Place.found p n = place at h
  induction h with
  | done => exact ⟨_, _, .done⟩
  | stay _ ih =>
    obtain ⟨q, n', h⟩ := ih hplace
    exact ⟨q, n', .stay h⟩
  | leave _ ih =>
    obtain ⟨q, n', h⟩ := ih hplace
    exact ⟨q, n', .leave h⟩
  | free => cases hplace
  | file ha hn => exact ⟨_, _, .file (hadmits ha) hn⟩
  | enter ha hn _ ih =>
    obtain ⟨q, n', h⟩ := ih hplace
    exact ⟨q, n', .enter (hadmits ha) hn h⟩
  | link ha hm hn => exact ⟨_, _, .link (hadmits ha) rfl hn⟩
  | @follow _ _ step rest slash _ _ ha hm hn _ ih =>
    by_cases hlast : rest = [] ∧ slash = false
    · obtain ⟨rfl, rfl⟩ := hlast
      exact ⟨_, _, .link (hadmits ha) rfl hn⟩
    · obtain ⟨q, n', h⟩ := ih hplace
      exact ⟨q, n', .follow (hadmits ha) (fun hr hs => absurd ⟨hr, hs⟩ hlast) hn h⟩

/-- Where no slash is behind the last name, a file can be created at the place to which a route
leads, or there is something that is in the way. -/
theorem Leads.creates (h : Leads t m links here steps slash place) (hf : m.follows = false)
    (hs : slash = false) : Leads t ⟨true, false⟩ links here steps slash place := by
  have hadmits {step rest slash} (ha : Admits m step rest slash) (hs : slash = false) :
      Admits ⟨true, false⟩ step rest slash := { ha with not_folder := by simp [hs] }
  induction h with
  | done => exact .done
  | stay _ ih => exact .stay (ih hs)
  | leave _ ih => exact .leave (ih hs)
  | free ha hn => exact .free (hadmits ha hs) hn
  | file ha hn => exact .file (hadmits ha hs) hn
  | enter ha hn _ ih => exact .enter (hadmits ha hs) hn (ih hs)
  | link ha _ hn => exact .link (hadmits ha hs) rfl hn
  | @follow _ _ _ rest _ _ _ ha hm hn _ ih =>
    -- the link is not the last step, so that a slash in its target does not count
    have hrest : rest ≠ [] := fun hr => by simpa [hf] using hm hr hs
    exact .follow (hadmits ha hs) (fun hr => absurd hr hrest) hn (ih (by simp [hs, hrest]))

theorem walk_ne_occupied : t.walk m links here steps slash ≠ .error .occupied := by
  fun_induction walk t m links here steps slash <;> simp_all

/-! ### Routes in a changed tree -/

/-- Whether a file is to be created makes a difference only where a route leads nowhere. -/
theorem Leads.not_creates (h : Leads t m links here steps slash place) :
    Leads t ⟨false, m.follows⟩ links here steps slash place := by
  have hadmits {step rest slash} (ha : Admits m step rest slash) :
      Admits ⟨false, m.follows⟩ step rest slash := { ha with not_folder := by simp }
  induction h with
  | done => exact .done
  | stay _ ih => exact .stay ih
  | leave _ ih => exact .leave ih
  | free ha hn => exact .free (hadmits ha) hn
  | file ha hn => exact .file (hadmits ha) hn
  | enter ha hn _ ih => exact .enter (hadmits ha) hn ih
  | link ha hm hn => exact .link (hadmits ha) hm hn
  | follow ha hm hn _ ih => exact .follow (hadmits ha) hm hn ih

/-- Once a file is put where a route leads, the route leads to the file: on its way there it met
folders and symbolic links only, and these are where they were. -/
theorem Leads.put (h : Leads t m links here steps slash place) (hp : p ∈ place.target?)
    (content : Bytes) :
    Leads (t.put p (.file content)) .inspect links here steps slash (.found p (.file content)) := by
  obtain ⟨hne, hfile⟩ := h.holds.get?_target hp
  have hadmits {step rest slash} (ha : Admits m step rest slash) :
      Admits .inspect step rest slash := { ha with not_folder := by simp [Manner.inspect] }
  -- what the route passes on its way is no file, so it is not at `p`
  have hold {q : Path} {n : Node} (hn : t.get? q = some n) (hf : ∀ content, n ≠ .file content) :
      (t.put p (.file content)).get? q = some n := by
    have hq : q ≠ p := fun hq => by
      obtain ⟨c, hc⟩ := hfile n (hq ▸ hn)
      exact hf c hc
    rw [get?_put t hne, if_neg hq, hn]
  have hnew : (t.put p (.file content)).get? p = some (.file content) := by
    rw [get?_put t hne, if_pos rfl]
  induction h with
  | done => cases hp
  | stay _ ih => exact .stay (ih hp)
  | leave _ ih => exact .leave (ih hp)
  | free ha hn =>
    obtain rfl := Option.some.inj hp
    exact .file (hadmits ha) hnew
  | file ha hn =>
    obtain rfl := Option.some.inj hp
    exact .file (hadmits ha) hnew
  | enter ha hn _ ih => exact .enter (hadmits ha) (hold hn (by simp)) (ih hp)
  -- a symbolic link that is not followed is no place for a file
  | link => cases hp
  | follow ha _ hn _ ih => exact .follow (hadmits ha) (fun _ _ => rfl) (hold hn (by simp)) (ih hp)

/-! ### Written paths -/

theorem locate_eq_ok_iff :
    t.locate m path = .ok place ↔
      '\x00' ∉ path ∧ path ≠ [] ∧ path.encode.length ≤ pathLimit ∧
        Leads t m linkLimit (if (Route.ofText path).absolute then [] else t.home)
          (Route.ofText path).steps (Route.ofText path).slash place := by
  rw [locate]
  split
  next h => simp [List.contains_iff_mem.1 h]
  next h =>
    split
    next he => simp [List.isEmpty_iff.1 he]
    next he =>
      split
      next hl => simp [Nat.not_le.2 hl]
      next hl => simp_all [walk_eq_ok_iff]

theorem holds_of_locate (h : t.locate m path = .ok place) : t.Holds place :=
  (locate_eq_ok_iff.1 h).2.2.2.holds

theorem locate_ne_occupied : t.locate m path ≠ .error .occupied := by
  rw [locate]
  split
  next => simp
  next =>
    split
    next => simp
    next =>
      split
      next => simp
      next => exact walk_ne_occupied

theorem locate_look (h : t.locate .create path = .ok place) : t.locate .look path = .ok place := by
  obtain ⟨h0, hne, hl, hw⟩ := locate_eq_ok_iff.1 h
  exact locate_eq_ok_iff.2 ⟨h0, hne, hl, hw.not_creates⟩

/-- Where no slash is behind a path, a file is created at it just where nothing is found. -/
theorem locate_create_iff (hs : path.getLast? ≠ some '/') :
    t.locate .create path = .ok place ↔ t.locate .look path = .ok place := by
  refine ⟨locate_look, ?_⟩
  intro h
  obtain ⟨h0, hne, hl, hw⟩ := locate_eq_ok_iff.1 h
  exact locate_eq_ok_iff.2 ⟨h0, hne, hl, hw.creates rfl (by simpa [Route.ofText] using hs)⟩

/-- A path at which a file can be put has no slash behind it. -/
theorem getLast?_ne_slash (h : t.locate m path = .ok place) (hp : p ∈ place.target?) :
    path.getLast? ≠ some '/' := by
  have hs : (Route.ofText path).slash = false :=
    (locate_eq_ok_iff.1 h).2.2.2.slash_eq_false hp
  simpa [Route.ofText] using hs

/-- Where a path leads to something, there is something at the path itself. -/
theorem exists_locate_look {n : Node} (h : t.locate .inspect path = .ok (.found p n)) :
    ∃ q n', t.locate .look path = .ok (.found q n') := by
  obtain ⟨h0, hne, hl, hw⟩ := locate_eq_ok_iff.1 h
  obtain ⟨q, n', hw'⟩ := hw.not_follows
  exact ⟨q, n', locate_eq_ok_iff.2 ⟨h0, hne, hl, hw'⟩⟩

/-- **Once a file is put where a path leads, the path leads to the file.** -/
theorem locate_put (h : t.locate m path = .ok place) (hp : p ∈ place.target?) (content : Bytes) :
    (t.put p (.file content)).locate .inspect path = .ok (.found p (.file content)) := by
  obtain ⟨h0, hne, hl, hw⟩ := locate_eq_ok_iff.1 h
  exact locate_eq_ok_iff.2 ⟨h0, hne, hl, hw.put hp content⟩

end FileTree

end LicenseForge
