import CallCoupling.Config.Flags
import CallCoupling.Proofs.Config.Layers

/-!
# The flags of a command line

Reading a command line sets declared flags only, each to a value of its kind (`Flags.sound_of_parse`).  All
ways to set a flag go through `Flags.assign`, so one lemma about it carries the others.
-/

set_option autoImplicit false

namespace CallCoupling

/-- A value that a flag of the kind can have. -/
def FlagKind.Holds : FlagKind → Setting → Prop
  | .text _, .text _ => True
  | .int _, .int _ => True
  | .bool _, .bool _ => True
  | .count, .int _ => True
  | _, _ => False

theorem FlagKind.Holds.plain {k : FlagKind} {v : Setting} (h : k.Holds v) : v.Plain := by
  cases v with
  | group fields => cases k <;> exact h.elim
  | _ => trivial

namespace Flags

/-- Every value is one of a declared flag and fits its kind. -/
def Parsed.Sound (flags : List Flag) (p : Parsed) : Prop :=
  ∀ name v, (name, v) ∈ p.values → ∃ f ∈ flags, f.name = name ∧ f.kind.Holds v

section

variable {flags : List Flag} {f : Flag} {value arg : String} {p p' : Parsed} {rest rest' : List String}

/-- Setting a flag puts a value of its kind before the others. -/
theorem assign_eq_ok (h : assign f value p = .ok p') :
    ∃ v, f.kind.Holds v ∧ p' = { p with values := (f.name, v) :: p.values } := by
  unfold assign at h
  cases hk : f.kind with
  | text _ =>
    simp only [hk] at h
    cases h
    exact ⟨.text value, trivial, rfl⟩
  | int _ =>
    simp only [hk] at h
    cases hn : Integer.parse value <;> simp only [hn] at h <;> cases h
    exact ⟨.int _, trivial, rfl⟩
  | bool _ =>
    simp only [hk] at h
    cases hb : Truth.parse? value <;> simp only [hb] at h <;> cases h
    exact ⟨.bool _, trivial, rfl⟩
  | count =>
    simp only [hk] at h
    split at h
    · cases h
      exact ⟨.int _, trivial, rfl⟩
    · cases hn : Integer.parse value <;> simp only [hn] at h <;> cases h
      exact ⟨.int _, trivial, rfl⟩

theorem Parsed.Sound.assign (hp : p.Sound flags) (hf : f ∈ flags) (h : assign f value p = .ok p') :
    p'.Sound flags := by
  obtain ⟨v, hv, rfl⟩ := assign_eq_ok h
  intro name w hmem
  obtain heq | hmem := List.mem_cons.1 hmem
  · obtain ⟨rfl, rfl⟩ := Prod.mk.inj heq
    exact ⟨f, hf, rfl, hv⟩
  · exact hp name w hmem

/-- Setting a flag found among the declared ones, with the arguments left put aside. -/
theorem Parsed.Sound.map_assign {found : Flag → Bool} (hp : p.Sound flags) (hf : flags.find? found = some f)
    (h : (Flags.assign f value p).map (fun p => (p, rest)) = .ok (p', rest')) : p'.Sound flags := by
  cases hv : Flags.assign f value p with
  | error e => simp [hv, Except.map] at h
  | ok q =>
    obtain ⟨rfl, rfl⟩ : q = p' ∧ rest = rest' := by simpa [hv, Except.map] using h
    exact hp.assign (List.mem_of_find?_eq_some hf) hv

theorem sound_long (hp : p.Sound flags) : long flags arg rest p = .ok (p', rest') → p'.Sound flags := by
  fun_cases long flags arg rest p with
  | case4 body _ name value f hf _ => exact hp.map_assign hf
  | case5 body _ name value f hf _ _ => exact hp.map_assign hf
  | case6 body _ name f hf value rest _ _ => exact hp.map_assign hf
  | _ => rintro ⟨⟩

theorem sound_letters {fuel : Nat} {cs : List Char} (hp : p.Sound flags) :
    letters flags fuel cs rest p = .ok (p', rest') → p'.Sound flags := by
  fun_induction letters flags fuel cs rest p with
  | case1 | case2 | case3 =>
    rintro ⟨⟩
    exact hp
  | case6 fuel c rest p f hf d ds _ => exact hp.map_assign hf
  | case7 fuel c cs rest p _ f hf value _ q hq _ ih =>
    exact ih (hp.assign (List.mem_of_find?_eq_some hf) hq)
  | case9 fuel c rest p f hf d ds _ _ _ => exact hp.map_assign hf
  | case10 fuel c p f hf value rest _ _ => exact hp.map_assign hf
  | _ => rintro ⟨⟩

theorem sound_parseFrom {fuel : Nat} {args : List String} (hp : p.Sound flags) :
    parseFrom flags fuel args p = .ok p' → p'.Sound flags := by
  fun_induction parseFrom flags fuel args p with
  | case1 | case2 | case3 =>
    rintro ⟨⟩
    exact hp
  | case4 fuel arg rest p body _ _ q rest' hlong ih => exact ih (sound_long hp hlong)
  | case6 fuel arg rest p c cs _ _ q rest' hletters ih => exact ih (sound_letters hp hletters)
  | case8 fuel arg rest p _ _ ih => exact ih hp
  | _ => rintro ⟨⟩

/-- A command line that is read sets declared flags to values of their kinds, and what it leaves alone are
declared flags too. -/
theorem sound_of_parse {args : List String} (h : parse flags args = .ok p) :
    p.Sound flags ∧ ∀ q ∈ p.untouched, ∃ f ∈ flags, f.name = q.1 := by
  unfold parse at h
  split at h
  · cases hread : parseFrom flags (args.length + 1) args {} with
    | error e => simp [hread, Except.map] at h
    | ok read =>
      have hsound : read.Sound flags := sound_parseFrom (by simp [Parsed.Sound]) hread
      simp only [hread, Except.map, Except.ok.injEq] at h
      subst h
      refine ⟨hsound, fun q hq => ?_⟩
      obtain ⟨f, hf, rfl⟩ := List.mem_map.1 hq
      exact ⟨f, (List.mem_filter.1 hf).1, rfl⟩
  · cases h

end

end Flags

end CallCoupling
