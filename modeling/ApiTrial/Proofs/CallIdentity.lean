import ApiTrial.Proofs.BuildCommitted
import ApiTrial.Proofs.JsonNesting

/-! Which calls are one build. The parameters stand right behind the name, so that an identity alone
does not tell where its name ends. Two texts of parameters are told apart by the end of the
identities; but a call without parameters may have the whole identity of another one for its
name. -/
namespace ApiTrial.Fixture
open Json

namespace Call

/-- Calls of one name, with one text of the parameters. -/
structure SameBuild (a b : Call) : Prop where
  name : a.name = b.name
  params : (obj a.params).render = (obj b.params).render

/-- A call without parameters, with the name and the parameters of another one for its name. -/
structure Mimics (a b : Call) : Prop where
  bare : a.params = []
  given : b.params ≠ []
  name : a.name = b.name ++ (obj b.params).render

def Shares (a b : Call) : Prop := a.SameBuild b ∨ a.Mimics b ∨ b.Mimics a

variable (a b : Call)

theorem identity_of_bare (h : a.params = []) : a.identity = a.name := by
  rw [identity, h]
  rfl

theorem identity_of_given (h : a.params ≠ []) :
    a.identity = a.name ++ (obj a.params).render := by
  rw [identity, if_neg (by simpa using h)]

/-- The text of parameters tells whether there are any. -/
theorem params_eq_nil_of_render_eq (h : (obj a.params).render = (obj b.params).render)
    (ha : a.params = []) : b.params = [] := by
  rw [ha] at h
  cases hb : b.params with
  | nil => rfl
  | cons first rest =>
    obtain ⟨text, ht⟩ := exists_writeMembers_eq first rest
    have hw : write (obj []) = write (obj (first :: rest)) := by
      rw [hb, render, render] at h
      exact String.ofList_injective h
    rw [write, write, ht] at hw
    cases (List.cons.inj hw).2

theorem identity_of_sameBuild (h : a.SameBuild b) : a.identity = b.identity := by
  by_cases ha : a.params = []
  · have hb := params_eq_nil_of_render_eq a b h.params ha
    rw [identity_of_bare a ha, identity_of_bare b hb, h.name]
  · have hb : b.params ≠ [] := fun hb =>
      ha (params_eq_nil_of_render_eq b a h.params.symm hb)
    rw [identity_of_given a ha, identity_of_given b hb, h.name, h.params]

theorem identity_of_mimics (h : a.Mimics b) : a.identity = b.identity := by
  rw [identity_of_bare a h.bare, identity_of_given b h.given, h.name]

/-- Behind a name, the text of parameters cannot begin earlier or later. -/
theorem sameBuild_of_given (ha : a.params ≠ []) (hb : b.params ≠ [])
    (h : a.identity = b.identity) : a.SameBuild b := by
  rw [identity_of_given a ha, identity_of_given b hb] at h
  have htext : a.name.toList ++ write (obj a.params) = b.name.toList ++ write (obj b.params) := by
    have := congrArg String.toList h
    simpa [render] using this
  have hsame (front : List Char) (x y : Call) (hn : x.name.toList = y.name.toList ++ front)
      (hw : write (obj y.params) = front ++ write (obj x.params)) : x.SameBuild y := by
    obtain rfl := eq_nil_of_append_write front y.params x.params hw
    refine ⟨String.toList_injective (by rw [hn, List.append_nil]), ?_⟩
    rw [render, render, hw, List.nil_append]
  rcases List.append_eq_append_iff.mp htext with ⟨front, hn, hw⟩ | ⟨front, hn, hw⟩
  · have := hsame front b a hn hw
    exact ⟨this.name.symm, this.params.symm⟩
  · exact hsame front a b hn hw

/-- Calls have one identity exactly if they are the same build, or one has the name of the other. -/
theorem identity_eq_iff_shares : a.identity = b.identity ↔ a.Shares b := by
  constructor
  · intro h
    by_cases ha : a.params = []
    · by_cases hb : b.params = []
      · rw [identity_of_bare a ha, identity_of_bare b hb] at h
        exact Or.inl ⟨h, by rw [ha, hb]⟩
      · rw [identity_of_bare a ha, identity_of_given b hb] at h
        exact Or.inr (Or.inl ⟨ha, hb, h⟩)
    · by_cases hb : b.params = []
      · rw [identity_of_given a ha, identity_of_bare b hb] at h
        exact Or.inr (Or.inr ⟨hb, ha, h.symm⟩)
      · exact Or.inl (sameBuild_of_given a b ha hb h)
  · rintro (h | h | h)
    · exact identity_of_sameBuild a b h
    · exact identity_of_mimics a b h
    · exact (identity_of_mimics b a h).symm

/-- A name that reads as an identity with parameters ends in a brace. -/
theorem getLast?_of_mimics (h : a.Mimics b) : a.name.toList.getLast? = some '\x7d' := by
  rw [h.name, render, String.toList_append, String.toList_ofList, write, ← List.append_assoc,
    List.getLast?_concat]

/-- Calls whose names end in no brace share a build exactly if they ask for the same one. -/
theorem identity_eq_iff_of_plain (ha : a.name.toList.getLast? ≠ some '\x7d')
    (hb : b.name.toList.getLast? ≠ some '\x7d') : a.identity = b.identity ↔ a.SameBuild b := by
  rw [identity_eq_iff_shares]
  constructor
  · rintro (h | h | h)
    · exact h
    · exact absurd (getLast?_of_mimics a b h) ha
    · exact absurd (getLast?_of_mimics b a h) hb
  · exact Or.inl

end Call

/-- Outputs that are found for a call were made by a call that it shares a build with. -/
theorem exists_entry_of_outputs? (built : Built) (call : Call) (made : Outputs)
    (h : built.outputs? call = some made) :
    ∃ entry : Call, (entry, made) ∈ built ∧ entry.Shares call := by
  obtain ⟨⟨entry, made⟩, hfind, rfl⟩ := Option.map_eq_some_iff.mp h
  have hidentity : entry.identity = call.identity := by simpa using List.find?_some hfind
  exact ⟨entry, List.mem_of_find?_eq_some hfind, (entry.identity_eq_iff_shares call).mp hidentity⟩

theorem outputs?_of_mapM (built : Built) (complaint : Call → Error) (calls : List Call)
    (results : List Outputs)
    (h : (calls.mapM fun call =>
      match built.outputs? call with
      | some outputs => .ok outputs
      | none => .error (complaint call)) = Except.ok results) :
    List.Forall₂ (fun call made => built.outputs? call = some made) calls results := by
  refine ((mapM_eq_ok_iff _ _ _).mp h).imp fun call made hm => ?_
  cases ho : built.outputs? call with
  | none => simp [ho] at hm
  | some found => simpa [ho] using hm

/-- A plan has an entry for all that is asked for or needed, and no two entries share a build. -/
theorem shares_of_plan (registry : Registry) (calls plan : List Call)
    (h : registry.plan calls = .ok plan) :
    plan.Pairwise (fun a b => ¬ a.Shares b) ∧
    (∀ call ∈ calls, ∃ entry ∈ plan, entry.Shares call) ∧
    ∀ entry ∈ plan, ∀ dependency, registry.Needs entry dependency →
      ∃ made ∈ plan, made.Shares dependency := by
  have hshared (calls : List Call) (call : Call)
      (hm : call.identity ∈ calls.map Call.identity) : ∃ entry ∈ calls, entry.Shares call := by
    obtain ⟨entry, he, hi⟩ := List.mem_map.mp hm
    exact ⟨entry, he, (entry.identity_eq_iff_shares call).mp hi⟩
  have hsettled := Registry.settled_of_plan registry calls plan h
  refine ⟨?_, ?_, ?_⟩
  · refine (List.pairwise_map.mp hsettled.nodup).imp fun {a b} hne hs => ?_
    exact hne ((a.identity_eq_iff_shares b).mpr hs)
  · intro call hc
    exact hshared plan call ((Registry.extends_of_plan registry calls plan h).reached call hc)
  · intro entry he dependency hn
    obtain ⟨before, behind, rfl⟩ := List.append_of_mem he
    obtain ⟨made, hm, hs⟩ := hshared before dependency (hsettled.behind _ _ _ rfl dependency hn)
    exact ⟨made, List.mem_append_left _ hm, hs⟩

/-- Two calls have one identity exactly if they have one name and one text of their parameters, or
one of them has no parameters and the identity of the other for its name; that name ends in a brace.
A plan keeps all other calls apart. What a resolution returns for a call, and what a build takes
over from those that it needs, was made by a call of the same build or by such a namesake. -/
theorem identity_tells_build_or_namesake (a b : Call) :
    (a.identity = b.identity ↔ (a.SameBuild b ∨ a.Mimics b ∨ b.Mimics a)) ∧
    (a.name.toList.getLast? ≠ some '\x7d' → b.name.toList.getLast? ≠ some '\x7d' →
      (a.identity = b.identity ↔ a.SameBuild b)) ∧
    (∀ (registry : Registry) (calls plan : List Call), registry.plan calls = .ok plan →
      plan.Pairwise (fun a b => ¬ a.Shares b) ∧
      (∀ call ∈ calls, ∃ entry ∈ plan, entry.Shares call) ∧
      ∀ entry ∈ plan, ∀ dependency, registry.Needs entry dependency →
        ∃ made ∈ plan, made.Shares dependency) ∧
    (∀ (registry : Registry) (client : Client) (caller : ScopeId) (network : Network)
      (calls : List Call) (world after : World) (results : List Outputs),
      (buildAll registry client caller calls).exec network world = (.ok results, after) →
      List.Forall₂ (fun call made => ∃ entry : Call,
        (entry, made) ∈ builtBy registry client caller network calls world ∧ entry.Shares call)
        calls results) ∧
    ∀ (fixture : Fixture) (call : Call) (built : Built) (inherited : List Outputs),
      fixture.inherited call built = .ok inherited →
      List.Forall₂ (fun dependency made => ∃ entry : Call, (entry, made) ∈ built ∧
        entry.Shares dependency) (fixture.dependencies call.params) inherited := by
  refine ⟨a.identity_eq_iff_shares b, a.identity_eq_iff_of_plain b, shares_of_plan, ?_,
    fun fixture call built inherited h => (outputs?_of_mapM built _ _ _ h).imp
      fun call made => exists_entry_of_outputs? built call made⟩
  intro registry client caller network calls world after results h
  rcases buildAll_cases registry client caller network calls world after _ h with
    ⟨_, _, ho, _⟩ | ⟨_, _, _, ho, _⟩ | ⟨plan, built, reached, made, hp, ho, hb, hr, -⟩
  · cases ho
  · cases ho
  cases ho
  have hbuilt : builtBy registry client caller network calls world = built := by
    rw [builtBy, hp]
    simp only [hb]
  rw [hbuilt]
  exact (outputs?_of_mapM built _ calls results hr).imp
    fun call made => exists_entry_of_outputs? built call made

/-- A call without parameters that is planned in place of another fixture's build. -/
theorem identity_tells_build_or_namesake_probes :
    let bare : Call := ⟨"a\x7b\"x\":1\x7d", []⟩
    let given : Call := ⟨"a", [("x", .int 1)]⟩
    bare.identity = given.identity ∧ bare.name ≠ given.name ∧
      probes.plan [bare, given] = .ok [bare] ∧ ∃ entry ∈ [bare], entry.Shares given := by
  intro bare given
  obtain ⟨hiff, -, hplan, -⟩ := identity_tells_build_or_namesake bare given
  have hmimics : bare.Mimics given := ⟨rfl, by decide, rfl⟩
  have hone : probes.plan [bare, given] = .ok [bare] := rfl
  obtain ⟨-, hcalls, -⟩ := hplan probes [bare, given] [bare] hone
  exact ⟨hiff.mpr (Or.inr (Or.inl hmimics)), by decide, hone,
    hcalls given (by simp)⟩

end ApiTrial.Fixture
