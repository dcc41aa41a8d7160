import ApiTrial.Json.Pointer
import ApiTrial.Proofs.JsonText
import ApiTrial.Proofs.TextBytes
import ApiTrial.Response.Basic

/-! Which pointers can lead to a value. A pointer takes one level of nesting for each of its steps,
and a text nests only so deep; up to that depth there is a body for every pointer that begins with
a slash, and any value may stand where it leads. -/
namespace ApiTrial
namespace Json

def stepName (step : List Char) : List Char := unescapeStep '0' '~' (unescapeStep '1' '/' step)

def walk : List (List Char) → Json → Option Json
  | [], value => some value
  | step :: rest, value => (step? (stepName step) value).bind (walk rest)

def steps? (pointer : String) : Option (List (List Char)) :=
  match pointer.toList with
  | [] => some []
  | '/' :: steps => some (splitAt '/' steps)
  | _ => none

theorem foldl_eq_walk (steps : List (List Char)) (reached : Option Json) :
    steps.foldl (fun reached step =>
      reached.bind (step? (unescapeStep '0' '~' (unescapeStep '1' '/' step)))) reached =
        reached.bind (walk steps) := by
  induction steps generalizing reached with
  | nil => cases reached <;> rfl
  | cons step rest ih =>
    rw [List.foldl_cons, ih]
    cases reached <;> rfl

theorem pointer?_eq_walk (pointer : String) (value : Json) :
    pointer? pointer value = (steps? pointer).bind fun steps => walk steps value := by
  rw [pointer?, steps?]
  cases pointer.toList with
  | nil => rfl
  | cons c rest =>
    by_cases hc : c = '/'
    · subst hc
      exact foldl_eq_walk (splitAt '/' rest) (some value)
    · simp [hc]

section Nested

def nested (leaf : Json) : List (List Char) → Json
  | [] => leaf
  | step :: rest => obj [(String.ofList (stepName step), nested leaf rest)]

theorem walk_nested (leaf : Json) (steps : List (List Char)) :
    walk steps (nested leaf steps) = some leaf := by
  induction steps with
  | nil => rfl
  | cons step rest ih =>
    rw [nested, walk, step?, Table.get?, if_pos rfl, Option.bind_some, ih]

theorem fits_nested (depth : Nat) (leaf : Json) (hleaf : ∀ depth, leaf.Fits (fun _ => True) depth)
    (steps : List (List Char)) (h : steps.length ≤ depth) :
    (nested leaf steps).Fits (fun _ => True) depth := by
  induction steps generalizing depth with
  | nil => exact hleaf depth
  | cons step rest ih =>
    obtain ⟨depth, rfl⟩ := Nat.exists_eq_add_one.mpr (Nat.zero_lt_of_lt h)
    have hrest := ih depth (Nat.le_of_succ_le_succ h)
    exact .obj depth _ (List.pairwise_singleton _ _) (fun _ _ => trivial) (by simpa using hrest)

end Nested

section Depth

def Within (depth : Nat) (value : Json) : Prop :=
  ∀ steps, (walk steps value).isSome = true → steps.length ≤ depth

theorem within_flat (depth : Nat) (value : Json) (h : ∀ step, step? step value = none) :
    value.Within depth := by
  intro steps hw
  cases steps with
  | nil => exact Nat.zero_le _
  | cons step rest =>
    rw [walk, h] at hw
    cases hw

/-- A list is one level deeper than its items. -/
theorem within_arr (depth : Nat) (items : List Json) (h : ∀ item ∈ items, item.Within depth) :
    (arr items).Within (depth + 1) := by
  intro steps hw
  cases steps with
  | nil => exact Nat.zero_le _
  | cons step rest =>
    rw [walk, step?] at hw
    cases hi : stepIndex? (stepName step) with
    | none =>
      rw [hi] at hw
      cases hw
    | some i =>
      rw [hi, Option.bind_some] at hw
      cases hitem : items[i]? with
      | none =>
        rw [hitem] at hw
        cases hw
      | some item =>
        rw [hitem] at hw
        exact Nat.succ_le_succ (h item (List.mem_of_getElem? hitem) rest hw)

theorem within_ofMembers (depth : Nat) (members : List (String × Json))
    (h : ∀ member ∈ members, member.2.Within depth) : (ofMembers members).Within (depth + 1) := by
  intro steps hw
  cases steps with
  | nil => exact Nat.zero_le _
  | cons step rest =>
    rw [ofMembers, walk, step?] at hw
    cases hv : Table.get? (String.ofList (stepName step)) (Table.ofEntries members) with
    | none =>
      rw [hv] at hw
      cases hw
    | some value =>
      rw [hv] at hw
      have hm := Table.mem_of_get?_ofEntries members _ value hv
      exact Nat.succ_le_succ (h _ hm rest hw)

theorem step?_of_number (negative : Bool) (whole fraction : List Char) (exponent : Option Int)
    (value : Json) (h : number negative whole fraction exponent = some value) (step : List Char) :
    step? step value = none := by
  simp only [number] at h
  split at h
  · cases h
    rfl
  · split at h
    · cases h
      rfl
    · obtain ⟨x, -, rfl⟩ := Option.map_eq_some_iff.mp h
      rfl

/-- A number has no steps into it. -/
theorem step?_of_readNumber (text rest : List Char) (value : Json)
    (h : readNumber text = some (value, rest)) (step : List Char) : step? step value = none := by
  rw [readNumber.eq_def] at h
  simp only [Option.bind_eq_bind] at h
  split at h
  all_goals
    split at h
    · cases h
    · obtain ⟨fraction, -, h⟩ := Option.bind_eq_some_iff.mp h
      split at h
      all_goals
        obtain ⟨exponent, -, h⟩ := Option.bind_eq_some_iff.mp h
        obtain ⟨found, hnumber, h⟩ := Option.bind_eq_some_iff.mp h
        cases h
        exact step?_of_number _ _ _ _ _ hnumber step

/-- What is read nests at most as deep as reading may go. -/
theorem within_of_read (fuel : Nat) :
    (∀ depth text value rest, readValue depth fuel text = some (value, rest) →
      value.Within depth) ∧
    (∀ depth text items rest, readItems depth fuel text = some (items, rest) →
      ∀ item ∈ items, item.Within depth) ∧
    ∀ depth text members rest, readMembers depth fuel text = some (members, rest) →
      ∀ member ∈ members, member.2.Within depth := by
  induction fuel with
  | zero =>
    refine ⟨?_, ?_, ?_⟩
    · rintro depth text value rest ⟨⟩
    · rintro depth text items rest ⟨⟩
    · rintro depth text members rest ⟨⟩
  | succ fuel ih =>
    obtain ⟨hvalue, hitems, hmembers⟩ := ih
    refine ⟨?_, ?_, ?_⟩
    · intro depth text value rest h
      rw [readValue] at h
      split at h
      · cases h
        exact within_flat depth null fun _ => rfl
      · cases h
        exact within_flat depth (bool true) fun _ => rfl
      · cases h
        exact within_flat depth (bool false) fun _ => rfl
      · obtain ⟨⟨text, _⟩, -, h⟩ := Option.map_eq_some_iff.mp h
        cases h
        exact within_flat depth (str text) fun _ => rfl
      · cases depth with
        | zero => cases h
        | succ depth =>
          rw [if_neg (Nat.succ_ne_zero depth)] at h
          split at h
          · cases h
            exact within_arr depth [] fun _ h => absurd h List.not_mem_nil
          · obtain ⟨⟨items, _⟩, hread, h⟩ := Option.map_eq_some_iff.mp h
            cases h
            exact within_arr depth items (hitems depth _ items _ hread)
      · cases depth with
        | zero => cases h
        | succ depth =>
          rw [if_neg (Nat.succ_ne_zero depth)] at h
          split at h
          · cases h
            exact within_ofMembers depth [] fun _ h => absurd h List.not_mem_nil
          · obtain ⟨⟨members, _⟩, hread, h⟩ := Option.map_eq_some_iff.mp h
            cases h
            exact within_ofMembers depth members (hmembers depth _ members _ hread)
      · exact within_flat depth value (step?_of_readNumber _ _ value h)
    · intro depth text items rest h
      rw [readItems] at h
      split at h
      · cases h
      · rename_i item _ hitem
        have hfirst := hvalue depth text item _ hitem
        split at h
        · obtain ⟨⟨items, _⟩, hread, h⟩ := Option.map_eq_some_iff.mp h
          cases h
          exact List.forall_mem_cons.mpr ⟨hfirst, hitems depth _ items _ hread⟩
        · cases h
          simpa using hfirst
        · cases h
    · intro depth text members rest h
      rw [readMembers] at h
      split at h
      · split at h
        · cases h
        · split at h
          · split at h
            · cases h
            · rename_i value _ hread
              have hfirst := hvalue depth _ value _ hread
              split at h
              · obtain ⟨⟨members, _⟩, hread, h⟩ := Option.map_eq_some_iff.mp h
                cases h
                exact List.forall_mem_cons.mpr ⟨hfirst, hmembers depth _ members _ hread⟩
              · cases h
                simpa using hfirst
              · cases h
          · cases h
      · cases h

theorem within_of_parse? (text : String) (value : Json) (h : parse? text = some value) :
    value.Within nestingLimit := by
  rw [parse?] at h
  cases hread : readValue nestingLimit (text.toList.length + 1) text.toList with
  | none =>
    rw [hread] at h
    cases h
  | some read =>
    rw [hread] at h
    dsimp only at h
    split at h
    · cases h
      exact (within_of_read _).1 _ _ _ _ hread
    · cases h

end Depth

/-- A pointer that can lead to a value: it is one, and has no more steps than a text has levels. -/
def Reachable (pointer : String) : Prop :=
  ∃ steps, steps? pointer = some steps ∧ steps.length ≤ nestingLimit

end Json

namespace Response
open Json

/-- For a pointer that can lead to a value there is a body in which it leads to the given one. -/
theorem exists_body (pointer : String) (leaf : Json) (h : Reachable pointer)
    (hleaf : ∀ depth, leaf.Fits (fun _ => True) depth) :
    ∃ body, ∀ response : Response, response.body = body →
      response.pointer? pointer = some leaf := by
  obtain ⟨steps, hsteps, hle⟩ := h
  have hfits := fits_nested nestingLimit leaf hleaf steps hle
  refine ⟨(nested leaf steps).write.flatMap String.utf8EncodeChar, ?_⟩
  intro response hbody
  have hne : response.body.isEmpty = false := by
    obtain ⟨c, rest, hw, -⟩ := exists_write_eq _ _ _ hfits
    rw [hbody, hw, List.flatMap_cons, List.isEmpty_eq_false_iff]
    simp
  have hjson : response.json? = some (nested leaf steps) := by
    rw [json?, hne, hbody, ofBytes?, Text.ofUtf8?_flatMap]
    exact parse?_render _ _ hfits
  rw [pointer?, hjson, Option.bind_some, pointer?_eq_walk, hsteps, Option.bind_some, walk_nested]

/-- A pointer that cannot lead to a value does not. -/
theorem pointer?_eq_none (response : Response) (pointer : String) (h : ¬ Reachable pointer) :
    response.pointer? pointer = none := by
  by_contra hne
  obtain ⟨found, hfound⟩ := Option.ne_none_iff_exists'.mp hne
  obtain ⟨value, hjson, hvalue⟩ := Option.bind_eq_some_iff.mp hfound
  rw [pointer?_eq_walk] at hvalue
  obtain ⟨steps, hsteps, hwalk⟩ := Option.bind_eq_some_iff.mp hvalue
  have hwithin : value.Within nestingLimit := by
    rw [json?] at hjson
    split at hjson
    · cases hjson
    · obtain ⟨text, -, hparse⟩ := Option.bind_eq_some_iff.mp hjson
      exact within_of_parse? text value hparse
  have hle := hwithin steps (by rw [hwalk]; rfl)
  exact h ⟨steps, hsteps, hle⟩

/-- No response without a body has a value at a pointer. -/
theorem pointer?_of_empty (response : Response) (pointer : String) (h : response.body = []) :
    response.pointer? pointer = none := by
  rw [pointer?, json?, h]
  rfl

end Response
end ApiTrial
