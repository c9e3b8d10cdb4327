import LicenseForge.Proofs.CommandLine.Reading

/-!
# Requests for more detail change nothing else

* `quietWords` : the words of a command line without the requests for more detail.
* `Choices.Agree`, `Scan.Follows` : what is read with the requests, and what is read without them.
* `Scan.Follows.run` : a command line and its quiet words are read alike.
* `Invocation.parse_quietWords` : they ask for the same.
-/

namespace LicenseForge

open Steps

/-! ### Quiet words -/

/-- The flag of a letter takes a value, for which the letters behind it stand. -/
def takesValue (c : Char) : Bool :=
  match Scope.program.short? c with
  | some (.slot _) => true
  | _ => false

/-- The letters without the requests for more detail. -/
def quietLetters : Text → Text
  | [] => []
  | c :: t =>
    if c = 'v' then quietLetters t
    else if takesValue c then c :: t
    else c :: quietLetters t

/-- The words without the requests for more detail. Behind two dashes there are none. -/
def quietWords : List Text → List Text
  | [] => []
  | w :: ws =>
    match Word.ofText w with
    | .escape => w :: ws
    | .short letters =>
      if quietLetters letters = [] then quietWords ws
      else ('-' :: quietLetters letters) :: quietWords ws
    | _ => w :: quietWords ws

/-- What is asked for, apart from the detail. -/
def Invocation.quiet (i : Invocation) : Invocation := { i with verbosity := 0 }

/-! ### Choices -/

namespace Choices

variable {c c' d : Choices} {scope : Scope} {slot : Slot} {switch : Switch} {v : Text}

/-- The choices differ in the number of requests for more detail only. -/
def Agree (c d : Choices) : Prop := ∃ n, d = { c with verbosity := n }

theorem Agree.refl (c : Choices) : c.Agree c := ⟨c.verbosity, rfl⟩

theorem store_verbosity (c : Choices) (n : Nat) (slot : Slot) (v : Text) :
    store { c with verbosity := n } slot v =
      (c.store slot v).map fun c' => { c' with verbosity := n } := by
  cases slot with
  | license | holder => rfl
  | output | templates => simp only [store]; cases path v <;> rfl
  | year => simp only [store]; split <;> rfl
  | color => simp only [store]; split <;> rfl

theorem Agree.assign (h : c.Agree d) (ha : c.assign slot v = .ok c') :
    ∃ d', d.assign slot v = .ok d' ∧ c'.Agree d' := by
  obtain ⟨n, rfl⟩ := h
  obtain ⟨hset, hstore⟩ := assign_eq_ok_iff.1 ha
  refine ⟨{ c' with verbosity := n }, assign_eq_ok_iff.2 ⟨?_, ?_⟩, n, rfl⟩
  · cases slot <;> exact hset
  · rw [store_verbosity, hstore]
    rfl

theorem Agree.throwSwitch (h : c.Agree d) (ht : c.throwSwitch scope switch = .ok c') :
    ∃ d', d.throwSwitch scope switch = .ok d' ∧ c'.Agree d' := by
  obtain ⟨n, rfl⟩ := h
  cases switch with
  | help | version => cases ht
  | verbose =>
    obtain rfl := Except.ok.inj ht
    exact ⟨_, rfl, _, rfl⟩
  | toStdout | force | noPrompt =>
    simp only [Choices.throwSwitch] at ht ⊢
    split at ht
    · cases ht
    next hn =>
      obtain rfl := Except.ok.inj ht
      exact ⟨_, if_neg hn, n, rfl⟩

/-- A request for more detail changes nothing else. -/
theorem Agree.verbose (h : c.Agree d) (ht : c.throwSwitch scope .verbose = .ok c') :
    c'.Agree d := by
  obtain ⟨n, rfl⟩ := h
  obtain rfl := Except.ok.inj ht
  exact ⟨n, rfl⟩

end Choices

/-! ### Scans -/

namespace Scan

variable {s s' t : Scan} {scope : Scope} {slot : Slot} {switch : Switch} {value : Option Text}
  {letters word : Text} {words : List Text} {escaped : Bool}

/-- What `t` has read and what `s` has read come to the same but for the requests for more detail.
A request settles what is pending, so `s` may have settled what is pending in `t`. -/
inductive Follows : Scan → Scan → Prop
  /-- The same is pending. -/
  | even {c d : Choices} {pending : Option (Slot × Option Text)} (h : c.Agree d) :
    Follows { choices := c, pending } { choices := d, pending }
  /-- What is pending in `t` has been settled in `s`. -/
  | behind {c d d' : Choices} {slot : Slot} {v : Text} (ha : d.assign slot v = .ok d')
    (h : c.Agree d') : Follows { choices := c } { choices := d, pending := some (slot, some v) }

theorem follows_of_settle {c d : Choices} (ht : t.settle = .ok { choices := d })
    (h : c.Agree d) : Follows { choices := c } t := by
  rcases settle_eq_ok_iff.1 ht with ⟨hp, rfl⟩ | ⟨slot, v, hp, ha⟩
  · exact .even h
  · obtain ⟨d', ha, he⟩ := assign_eq_ok_iff.1 ha
    obtain rfl : d = d' := congrArg Scan.choices he
    obtain ⟨e, pending⟩ := t
    obtain rfl : pending = some (slot, some v) := hp
    exact .behind ha h

/-- Once all is settled, nothing is pending on both sides. -/
theorem Follows.settle (h : s.Follows t) (hs : s.settle = .ok s') :
    ∃ c d, s' = { choices := c } ∧ t.settle = .ok { choices := d } ∧ c.Agree d := by
  cases h with
  | @even c d pending h =>
    rcases settle_eq_ok_iff.1 hs with ⟨hp, rfl⟩ | ⟨slot, v, hp, ha⟩
    · obtain rfl : pending = none := hp
      exact ⟨c, d, rfl, rfl, h⟩
    · obtain rfl : pending = some (slot, some v) := hp
      obtain ⟨c', hc, rfl⟩ := assign_eq_ok_iff.1 ha
      obtain ⟨d', hd, h'⟩ := h.assign hc
      exact ⟨c', d', rfl, assign_eq_ok_iff.2 ⟨d', hd, rfl⟩, h'⟩
  | @behind c d d' slot v ha h =>
    obtain rfl := Except.ok.inj hs
    exact ⟨c, d', rfl, assign_eq_ok_iff.2 ⟨d', ha, rfl⟩, h⟩

theorem Follows.throwSwitch (h : s.Follows t) (hs : s.throwSwitch scope switch = .ok s') :
    ∃ t', t.throwSwitch scope switch = .ok t' ∧ s'.Follows t' := by
  obtain ⟨s₁, h₁, hs⟩ := bind_eq_ok.1 hs
  obtain ⟨c, hc, hs⟩ := bind_eq_ok.1 hs
  obtain rfl := pure_eq_ok.1 hs
  obtain ⟨c₁, d₁, rfl, ht, hcd⟩ := h.settle h₁
  obtain ⟨d, hd, hcd⟩ := hcd.throwSwitch hc
  exact ⟨{ choices := d }, bind_eq_ok.2 ⟨_, ht, bind_eq_ok.2 ⟨d, hd, rfl⟩⟩, .even hcd⟩

/-- A request for more detail need not be read. -/
theorem Follows.verbose (h : s.Follows t) (hs : s.throwSwitch scope .verbose = .ok s') :
    s'.Follows t := by
  obtain ⟨s₁, h₁, hs⟩ := bind_eq_ok.1 hs
  obtain ⟨c, hc, hs⟩ := bind_eq_ok.1 hs
  obtain rfl := pure_eq_ok.1 hs
  obtain ⟨c₁, d₁, rfl, ht, hcd⟩ := h.settle h₁
  exact follows_of_settle ht (hcd.verbose hc)

theorem Follows.begin (h : s.Follows t) (hs : s.begin slot value = .ok s') :
    ∃ t', t.begin slot value = .ok t' ∧ s'.Follows t' := by
  obtain ⟨s₁, h₁, hs⟩ := bind_eq_ok.1 hs
  obtain ⟨c₁, d₁, rfl, ht, hcd⟩ := h.settle h₁
  cases value with
  | none =>
    obtain rfl := pure_eq_ok.1 hs
    exact ⟨_, bind_eq_ok.2 ⟨_, ht, rfl⟩, .even hcd⟩
  | some v =>
    obtain ⟨c, hc, rfl⟩ := assign_eq_ok_iff.1 hs
    obtain ⟨d, hd, hcd⟩ := hcd.assign hc
    exact ⟨{ choices := d }, bind_eq_ok.2 ⟨_, ht, assign_eq_ok_iff.2 ⟨d, hd, rfl⟩⟩, .even hcd⟩

theorem Follows.long {name : Text} (h : s.Follows t) (hs : s.long scope name value = .ok s') :
    ∃ t', t.long scope name value = .ok t' ∧ s'.Follows t' := by
  unfold Scan.long at hs ⊢
  split at hs
  · cases hs
  next => exact h.begin hs
  next =>
    split at hs
    · cases hs
    next hv =>
      rw [if_neg hv]
      exact h.throwSwitch hs

/-! ### Letters -/

/-- The letters of the commands are letters of the program. -/
theorem short?_program {c : Char} {f : Flag} (h : scope.short? c = some f) :
    Scope.program.short? c = some f := by
  cases scope with
  | program => exact h
  | list | info =>
    have hmem : f ∈ Flag.common := List.mem_of_find?_eq_some h
    have hc : f.short? = some c := by simpa using List.find?_some h
    simp only [Flag.common, List.mem_cons, List.not_mem_nil, or_false] at hmem
    rcases hmem with rfl | rfl | rfl | rfl <;> cases hc <;> rfl

theorem takesValue_switch {c : Char} (h : scope.short? c = some (.switch switch)) :
    ¬takesValue c = true := by
  rw [takesValue, short?_program h]
  exact Bool.false_ne_true

theorem takesValue_slot {c : Char} (h : scope.short? c = some (.slot slot)) :
    takesValue c = true := by
  rw [takesValue, short?_program h]

theorem Follows.short (h : s.Follows t) (hs : s.short scope letters = .ok s') :
    ∃ t', t.short scope (quietLetters letters) = .ok t' ∧ s'.Follows t' := by
  induction letters generalizing s t with
  | nil =>
    obtain rfl := Except.ok.inj hs
    exact ⟨t, rfl, h⟩
  | cons c rest ih =>
    unfold Scan.short at hs
    split at hs
    next => cases hs
    next switch hc =>
      obtain ⟨s₁, h₁, hrest⟩ := bind_eq_ok.1 hs
      by_cases hv : c = 'v'
      · have hverbose : Scope.program.short? 'v' = some (.switch .verbose) := rfl
        rw [← hv, short?_program hc] at hverbose
        cases hverbose
        rw [quietLetters, if_pos hv]
        exact ih (h.verbose h₁) hrest
      · obtain ⟨t₁, ht, h₁⟩ := h.throwSwitch h₁
        obtain ⟨t', hrest, h'⟩ := ih h₁ hrest
        rw [quietLetters, if_neg hv, if_neg (takesValue_switch hc), Scan.short]
        simp only [hc]
        exact ⟨t', bind_eq_ok.2 ⟨t₁, ht, hrest⟩, h'⟩
    next slot hc =>
      have hv : c ≠ 'v' := by
        rintro rfl
        cases takesValue_slot hc
      rw [quietLetters, if_neg hv, if_pos (takesValue_slot hc), Scan.short]
      simp only [hc]
      split at hs <;> exact h.begin hs

/-- Behind letters that can be read, the quiet ones do not start with a dash. -/
theorem head?_quietLetters (hs : s.short scope letters = .ok s') :
    (quietLetters letters).head? ≠ some '-' := by
  induction letters generalizing s with
  | nil => exact Option.some_ne_none _ |>.symm
  | cons c rest ih =>
    unfold Scan.short at hs
    split at hs
    next => cases hs
    next switch hc =>
      obtain ⟨s₁, h₁, hrest⟩ := bind_eq_ok.1 hs
      by_cases hv : c = 'v'
      · rw [quietLetters, if_pos hv]
        exact ih hrest
      · rw [quietLetters, if_neg hv, if_neg (takesValue_switch hc)]
        rintro ⟨⟩
        cases short?_program hc
    next slot hc =>
      have hv : c ≠ 'v' := by
        rintro rfl
        cases takesValue_slot hc
      rw [quietLetters, if_neg hv, if_pos (takesValue_slot hc)]
      rintro ⟨⟩
      cases short?_program hc

/-! ### Words -/

theorem Follows.hasLicense (h : s.Follows t) : t.hasLicense = s.hasLicense := by
  cases h with
  | even h =>
    obtain ⟨n, rfl⟩ := h
    rfl
  | @behind c d d' slot v ha h =>
    obtain ⟨n, rfl⟩ := h
    have hl := (Choices.store_values (Choices.assign_eq_ok_iff.1 ha).2).1
    simp only [Scan.hasLicense]
    rw [show c.license = _ from hl]
    by_cases hslot : slot = .license <;> simp [hslot]

theorem Follows.awaits (h : s.Follows t) : t.awaits = s.awaits := by
  cases h <;> rfl

theorem Follows.positional (h : s.Follows t) (hs : s.positional scope escaped word = .ok s') :
    ∃ t', t.positional scope escaped word = .ok t' ∧ s'.Follows t' := by
  unfold Scan.positional at hs ⊢
  rw [h.hasLicense]
  split at hs
  next hl =>
    rw [if_pos hl]
    obtain ⟨s₁, h₁, hs⟩ := bind_eq_ok.1 hs
    obtain rfl := pure_eq_ok.1 hs
    obtain ⟨c₁, d₁, rfl, ht, hcd⟩ := h.settle h₁
    exact ⟨_, bind_eq_ok.2 ⟨_, ht, rfl⟩, .even hcd⟩
  next => cases hs

theorem Follows.plain (h : s.Follows t) (hs : s.plain scope word = .ok s') :
    ∃ t', t.plain scope word = .ok t' ∧ s'.Follows t' := by
  cases h with
  | @even c d pending hcd =>
    match pending with
    | some (slot, none) =>
      obtain rfl := Except.ok.inj hs
      exact ⟨_, rfl, .even hcd⟩
    | none | some (slot, some v) => exact Follows.positional (.even hcd) hs
  | behind ha hcd => exact Follows.positional (.behind ha hcd) hs

/-- Behind two dashes there are no requests for more detail. -/
theorem Follows.run_escaped {behind : Option (Scope × List Text)} (h : s.Follows t)
    (hs : s.run scope true words = .ok (s', behind)) :
    behind = none ∧ ∃ t', t.run scope true words = .ok (t', none) ∧ s'.Follows t' := by
  induction words generalizing s t with
  | nil =>
    obtain ⟨rfl, rfl⟩ := Prod.mk.inj (Except.ok.inj hs)
    exact ⟨rfl, t, rfl, h⟩
  | cons word rest ih =>
    simp only [run, if_true] at hs ⊢
    obtain ⟨s₁, h₁, hs⟩ := bind_eq_ok.1 hs
    obtain ⟨t₁, ht, h₁⟩ := h.positional h₁
    obtain ⟨hb, t', hrest, h'⟩ := ih h₁ hs
    exact ⟨hb, t', bind_eq_ok.2 ⟨t₁, ht, hrest⟩, h'⟩

theorem ofText_of_commandAt {command : CommandWord} (h : s.commandAt scope word = some command) :
    Word.ofText word = .plain := by
  unfold commandAt at h
  split at h
  next =>
    have hword : command.word = word := by simpa using List.find?_some h
    rw [← hword]
    cases command <;> rfl
  next => cases h

theorem ofText_short (h : letters ≠ []) (hdash : letters.head? ≠ some '-') :
    Word.ofText ('-' :: letters) = .short letters := by
  match letters with
  | c :: rest =>
    have hc : c ≠ '-' := fun hc => hdash (congrArg some hc)
    unfold Word.ofText
    split <;> simp_all

/-- A command line and its quiet words are read alike, up to a command. -/
theorem Follows.run {behind : Option (Scope × List Text)} (h : s.Follows t)
    (hs : s.run scope false words = .ok (s', behind)) :
    ∃ t', t.run scope false (quietWords words) =
        .ok (t', behind.map fun p => (p.1, quietWords p.2)) ∧ s'.Follows t' := by
  induction words generalizing s t with
  | nil =>
    obtain ⟨rfl, rfl⟩ := Prod.mk.inj (Except.ok.inj hs)
    exact ⟨t, rfl, h⟩
  | cons word rest ih =>
    rw [Scan.run, if_neg Bool.false_ne_true] at hs
    have hat : t.commandAt scope word = s.commandAt scope word := by
      unfold commandAt
      rw [h.awaits]
    cases hcmd : s.commandAt scope word with
    | some command =>
      have hquiet : quietWords (word :: rest) = word :: quietWords rest := by
        rw [quietWords, ofText_of_commandAt hcmd]
      rw [hcmd] at hs hat
      rw [hquiet, Scan.run, if_neg Bool.false_ne_true, hat]
      cases command with
      | list | info =>
        obtain ⟨rfl, rfl⟩ := Prod.mk.inj (Except.ok.inj hs)
        exact ⟨t, rfl, h⟩
      | help =>
        obtain ⟨topic, -, hs⟩ := bind_eq_ok.1 hs
        exact absurd hs throw_ne_ok
    | none =>
      rw [hcmd] at hs hat
      cases hw : Word.ofText word with
      | escape =>
        simp only [hw] at hs
        obtain ⟨rfl, t', ht, h'⟩ := h.run_escaped hs
        rw [quietWords, hw, Scan.run, if_neg Bool.false_ne_true, hat]
        simp only [hw]
        exact ⟨t', ht, h'⟩
      | long name value =>
        simp only [hw] at hs
        obtain ⟨s₁, h₁, hs⟩ := bind_eq_ok.1 hs
        obtain ⟨t₁, ht, h₁⟩ := h.long h₁
        obtain ⟨t', hrest, h'⟩ := ih h₁ hs
        rw [quietWords, hw, Scan.run, if_neg Bool.false_ne_true, hat]
        simp only [hw]
        exact ⟨t', bind_eq_ok.2 ⟨t₁, ht, hrest⟩, h'⟩
      | short letters =>
        simp only [hw] at hs
        obtain ⟨s₁, h₁, hs⟩ := bind_eq_ok.1 hs
        obtain ⟨t₁, ht, h'₁⟩ := h.short h₁
        obtain ⟨t', hrest, h'⟩ := ih h'₁ hs
        rw [quietWords, hw]
        by_cases hnil : quietLetters letters = []
        · -- a word of requests alone is not read at all
          rw [hnil] at ht
          obtain rfl := Except.ok.inj ht
          simp only [hnil, if_true]
          exact ⟨t', hrest, h'⟩
        · simp only [hnil, if_false]
          have hword := ofText_short hnil (head?_quietLetters h₁)
          have hat : t.commandAt scope ('-' :: quietLetters letters) = none :=
            commandAt_eq_none rfl
          rw [Scan.run, if_neg Bool.false_ne_true, hat]
          simp only [hword]
          exact ⟨t', bind_eq_ok.2 ⟨t₁, ht, hrest⟩, h'⟩
      | plain =>
        simp only [hw] at hs
        obtain ⟨s₁, h₁, hs⟩ := bind_eq_ok.1 hs
        obtain ⟨t₁, ht, h₁⟩ := h.plain h₁
        obtain ⟨t', hrest, h'⟩ := ih h₁ hs
        rw [quietWords, hw, Scan.run, if_neg Bool.false_ne_true, hat]
        simp only [hw]
        exact ⟨t', bind_eq_ok.2 ⟨t₁, ht, hrest⟩, h'⟩

end Scan

/-! ### The whole command line -/

section

variable {c d outer outer' : Choices} {scope : Scope} {words words' : List Text}
  {environment environment' : Option Text} {command : Command} {i i' : Invocation}

theorem Choices.Agree.toGenerate (h : c.Agree d) (hc : c.toGenerate environment = .ok i) :
    ∃ j, d.toGenerate environment = .ok j ∧ j.quiet = i.quiet := by
  obtain ⟨n, rfl⟩ := h
  obtain ⟨folder, hf, hc⟩ := bind_eq_ok.1 hc
  obtain ⟨-, hc⟩ := guard_eq_ok.1 hc
  obtain ⟨hconflict, hc⟩ := guard_eq_ok.1 hc
  split at hc
  next => exact absurd hc throw_ne_ok
  next license hl =>
    obtain rfl := pure_eq_ok.1 hc
    have hconflict : c.conflict = false := eq_false_of_ne_true hconflict
    exact ⟨_, toGenerate_eq hl hconflict hf, rfl⟩

theorem Choices.Agree.toCommand (h : c.Agree d) (ho : outer.Agree outer')
    (hc : c.toCommand outer environment command = .ok i) :
    ∃ j, d.toCommand outer' environment command = .ok j ∧ j.quiet = i.quiet := by
  obtain ⟨n, rfl⟩ := h
  obtain ⟨m, rfl⟩ := ho
  obtain ⟨folder, hf, hc⟩ := bind_eq_ok.1 hc
  obtain ⟨hconflict, hc⟩ := guard_eq_ok.1 hc
  obtain rfl := pure_eq_ok.1 hc
  exact ⟨_, bind_eq_ok.2 ⟨folder, hf, guard_eq_ok.2 ⟨hconflict, rfl⟩⟩, rfl⟩

theorem Command.read_quietWords (hr : Command.read scope words environment = .ok (c, command)) :
    ∃ d, Command.read scope (quietWords words) environment = .ok (d, command) ∧ c.Agree d := by
  obtain ⟨⟨s, behind⟩, hs, hr⟩ := bind_eq_ok.1 hr
  obtain ⟨s₁, h₁, hr⟩ := bind_eq_ok.1 hr
  obtain ⟨folder, hf, hr⟩ := bind_eq_ok.1 hr
  obtain ⟨t, ht, h⟩ := (Scan.Follows.even (.refl {})).run hs
  obtain ⟨c₁, d₁, rfl, ht₁, hcd⟩ := h.settle h₁
  have hlicense : d₁.license = c₁.license := by
    obtain ⟨n, rfl⟩ := hcd
    rfl
  have hfolder : d₁.withEnvironment environment = .ok folder := by
    obtain ⟨n, rfl⟩ := hcd
    exact hf
  cases scope with
  | program | list =>
    obtain ⟨rfl, rfl⟩ := Prod.mk.inj (pure_eq_ok.1 hr)
    exact ⟨d₁, read_eq_list (by decide) ht ht₁ hfolder, hcd⟩
  | info =>
    cases hl : c₁.license with
    | none =>
      simp only [hl] at hr
      exact absurd hr throw_ne_ok
    | some license =>
      simp only [hl] at hr
      obtain ⟨rfl, rfl⟩ := Prod.mk.inj (pure_eq_ok.1 hr)
      exact ⟨d₁, read_eq_info ht ht₁ hfolder (hlicense.trans hl), hcd⟩

/-- The quiet words of a command line ask for the same, apart from the detail. -/
theorem Invocation.parse_quietWords (h : Invocation.parse words environment = .ok i) :
    ∃ j, Invocation.parse (quietWords words) environment = .ok j ∧ j.quiet = i.quiet := by
  obtain ⟨⟨s, behind⟩, hs, h⟩ := bind_eq_ok.1 h
  obtain ⟨t, ht, hst⟩ := (Scan.Follows.even (.refl {})).run hs
  cases behind with
  | none =>
    obtain ⟨s₁, h₁, h⟩ := bind_eq_ok.1 h
    obtain ⟨c, d, rfl, ht₁, hcd⟩ := hst.settle h₁
    obtain ⟨j, hj, hquiet⟩ := hcd.toGenerate h
    exact ⟨j, bind_eq_ok.2 ⟨_, ht, bind_eq_ok.2 ⟨_, ht₁, hj⟩⟩, hquiet⟩
  | some behind =>
    obtain ⟨⟨c, command⟩, hr, h⟩ := bind_eq_ok.1 h
    obtain ⟨s₁, h₁, h⟩ := bind_eq_ok.1 h
    obtain ⟨outer, outer', rfl, ht₁, ho⟩ := hst.settle h₁
    obtain ⟨d, hd, hcd⟩ := Command.read_quietWords hr
    obtain ⟨j, hj, hquiet⟩ := hcd.toCommand ho h
    exact ⟨j, bind_eq_ok.2 ⟨_, ht, bind_eq_ok.2 ⟨_, hd, bind_eq_ok.2 ⟨_, ht₁, hj⟩⟩⟩, hquiet⟩

/-- Command lines with the same quiet words ask for the same, apart from the detail. -/
theorem Invocation.quiet_eq_of_parse (hw : quietWords words = quietWords words')
    (h : Invocation.parse words environment = .ok i)
    (h' : Invocation.parse words' environment = .ok i') : i.quiet = i'.quiet := by
  obtain ⟨j, hj, hquiet⟩ := Invocation.parse_quietWords h
  obtain ⟨j', hj', hquiet'⟩ := Invocation.parse_quietWords h'
  rw [hw, hj'] at hj
  rw [← hquiet, ← hquiet', Except.ok.inj hj]

end

end LicenseForge
