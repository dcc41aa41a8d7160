import ApiTrial.Proofs.RequestCourse

/-! How many attempts are made of a request, and which of them tells how it went. Attempts follow each
other while they are lost to the connection and retries are left, so the last one is the first that
is not lost, or the one for which the last retry was spent. This is so whatever an attempt does; an
attempt of a client sends the request that it was given, or refuses it. -/
namespace ApiTrial

namespace Trial
variable {α : Type} (network : Network) (attempt : Trial α) (backoff : Nat)

def Lost (outcome : Except Error α) : Prop := ∃ reason, outcome = .error (.transport reason)

def orNext (next : Trial α) : Except Error α → Routine (Except Error α)
  | .error e => if e.isTransport then .pause backoff next.run else .done (.error e)
  | .ok a => .done (.ok a)

/-- Makes an attempt, and makes it again after a pause as long as it is lost and retries are left. -/
def retried : Nat → Trial α
  | 0 => attempt
  | retries + 1 => ExceptT.mk (attempt.run.bind (orNext backoff (retried retries)))

def behind : Nat → World → World
  | 0, world => world
  | made + 1, world => behind made (exec network attempt world).2

def outcome (before : Nat) (world : World) : Except Error α :=
  (exec network attempt (behind network attempt before world)).1

/-- The course of an attempt and of so many others behind it, each after a pause. -/
def courseOf : Nat → World → List Mark
  | 0, world => course network attempt world
  | others + 1, world =>
    course network attempt world ++
      .paused backoff :: courseOf others (exec network attempt world).2

theorem orNext_of_settled (next : Trial α) (result : Except Error α) (h : ¬ Lost result) :
    orNext backoff next result = .done result := by
  cases result with
  | ok a => rfl
  | error e =>
    cases e with
    | transport reason => exact absurd ⟨reason, rfl⟩ h
    | _ => rfl

variable (world after : World) (result : Except Error α)

/-- An attempt that is not lost is not made again. -/
theorem goes_retried_of_settled (retries : Nat) (marks : List Mark)
    (h : attempt.Goes network world result after marks) (hl : ¬ Lost result) :
    (attempt.retried backoff retries).Goes network world result after marks := by
  cases retries with
  | zero => exact h
  | succ retries =>
    obtain ⟨hexec, hcourse⟩ := h
    rw [exec] at hexec
    rw [course] at hcourse
    constructor
    · rw [exec, retried, ExceptT.run_mk, Routine.run_bind, hexec, orNext_of_settled _ _ _ hl]
      rfl
    · rw [course, retried, ExceptT.run_mk, Routine.course_bind, hexec, hcourse,
        orNext_of_settled _ _ _ hl]
      exact List.append_nil marks

/-- Behind an attempt that is lost there is one retry less. -/
theorem goes_retried_of_lost (retries : Nat) (middle : World) (reason : String)
    (front back : List Mark)
    (h : attempt.Goes network world (.error (.transport reason)) middle front)
    (hr : (attempt.retried backoff retries).Goes network middle result after back) :
    (attempt.retried backoff (retries + 1)).Goes network world result after
      (front ++ .paused backoff :: back) := by
  obtain ⟨hexec, hcourse⟩ := h
  rw [exec] at hexec
  rw [course] at hcourse
  constructor
  · rw [exec, retried, ExceptT.run_mk, Routine.run_bind, hexec]
    exact hr.exec
  · rw [course, retried, ExceptT.run_mk, Routine.course_bind, hexec, hcourse]
    exact congrArg (front ++ .paused backoff :: ·) hr.course

/-- Attempts come to an end with the one that is not lost behind lost ones, or that took the last
retry. -/
theorem goes_retried (last retries : Nat) (hle : last ≤ retries)
    (hlost : ∀ k < last, Lost (attempt.outcome network k world))
    (hlast : last = retries ∨ ¬ Lost (attempt.outcome network last world)) :
    (attempt.retried backoff retries).Goes network world (attempt.outcome network last world)
      (attempt.behind network (last + 1) world) (attempt.courseOf network backoff last world) := by
  induction retries generalizing last world with
  | zero =>
    obtain rfl := Nat.le_zero.mp hle
    exact ⟨rfl, rfl⟩
  | succ retries ih =>
    cases last with
    | zero =>
      have hsettled := hlast.resolve_left (Nat.succ_ne_zero retries).symm
      exact goes_retried_of_settled network attempt backoff world _ _ _ _ ⟨rfl, rfl⟩ hsettled
    | succ last =>
      obtain ⟨reason, hreason⟩ := hlost 0 (Nat.succ_pos last)
      -- What is lost behind the first attempt is counted from there on.
      have hrest := ih (exec network attempt world).2 last (Nat.le_of_succ_le_succ hle)
        (fun k hk => hlost (k + 1) (Nat.succ_lt_succ hk))
        (hlast.imp_left Nat.succ.inj)
      exact goes_retried_of_lost network attempt backoff world _ _ retries _ reason _ _
        ⟨Prod.ext hreason rfl, rfl⟩ hrest

/-- Among outcomes there is one with which attempts end. -/
theorem exists_last (outcomes : Nat → Except Error α) (retries : Nat) :
    ∃ last ≤ retries, (∀ k < last, Lost (outcomes k)) ∧
      (last = retries ∨ ¬ Lost (outcomes last)) := by
  induction retries with
  | zero => exact ⟨0, Nat.le_refl 0, nofun, Or.inl rfl⟩
  | succ retries ih =>
    obtain ⟨last, hle, hlost, hlast⟩ := ih
    by_cases hl : Lost (outcomes last)
    · -- Up to here all is lost, so the retry that has been added is spent.
      obtain rfl := hlast.resolve_right (not_not.mpr hl)
      refine ⟨last + 1, Nat.le_refl _, ?_, Or.inl rfl⟩
      intro k hk
      rcases Nat.lt_succ_iff_lt_or_eq.mp hk with hk | rfl
      · exact hlost k hk
      · exact hl
    · exact ⟨last, Nat.le_succ_of_le hle, hlost, Or.inr hl⟩

end Trial

namespace Client
variable (client : Client) (network : Network) (request : ResolvedRequest)

theorem attempts_eq_retried (backoff retries : Nat) :
    client.attempts request backoff retries = (client.attempt request).retried backoff retries := by
  induction retries with
  | zero => rfl
  | succ retries ih =>
    rw [attempts, Trial.retried, ih]
    refine congrArg (fun next => ExceptT.mk ((client.attempt request).run.bind next)) ?_
    funext result
    cases result <;> rfl

/-- An attempt that can be sent is answered or lost. -/
theorem outcome_attempt (wire : WireRequest) (before : Nat) (world : World)
    (h : request.wire (client.urlOf request.path) = .ok wire) :
    (∃ answer, (client.attempt request).outcome network before world =
        .ok (client.response request answer)) ∨
      Trial.Lost ((client.attempt request).outcome network before world) := by
  have hgoes := goes_attempt client network request wire
    ((client.attempt request).behind network before world) h
  rw [Trial.outcome, hgoes.exec]
  split
  · exact Or.inl ⟨_, rfl⟩
  · exact Or.inr ⟨_, rfl⟩

/-- The attempts that are made one after the other send the same each. -/
theorem requests_courseOf (wire : WireRequest) (backoff others : Nat) (world : World)
    (h : request.wire (client.urlOf request.path) = .ok wire) :
    Mark.requests ((client.attempt request).courseOf network backoff others world) =
      List.replicate (others + 1) wire := by
  induction others generalizing world with
  | zero =>
    rw [Trial.courseOf, (goes_attempt client network request wire world h).course]
    rfl
  | succ others ih =>
    rw [Trial.courseOf, (goes_attempt client network request wire world h).course,
      List.replicate_succ, ← ih]
    rfl

/-- Sending a request makes attempts of it until one is not lost, and at most one more than there are
retries; what the last one came to is the result. This holds of whatever an attempt comes to: an
answer of any status and any other error than that of a connection are never followed by another
attempt, and an attempt that is lost is the last one only when all retries are spent. A request that
cannot be sent is refused without being sent, and one that can is the same in every attempt. -/
theorem sendWith_ends_with_settled (retry : RetryPolicy) :
    client.sendWith retry request =
      (client.attempt request).retried retry.backoff retry.retries ∧
    (∀ (attempt : Trial Response) (world : World), ∃ last ≤ retry.retries,
      (∀ k < last, Trial.Lost (attempt.outcome network k world)) ∧
      (last = retry.retries ∨ ¬ Trial.Lost (attempt.outcome network last world)) ∧
      (attempt.retried retry.backoff retry.retries).Goes network world
        (attempt.outcome network last world) (attempt.behind network (last + 1) world)
        (attempt.courseOf network retry.backoff last world)) ∧
    (∀ e, request.wire (client.urlOf request.path) = .error e → ∀ world,
      (client.sendWith retry request).Goes network world (.error e) world []) ∧
    ∀ wire, request.wire (client.urlOf request.path) = .ok wire → ∀ made world,
      Mark.requests ((client.attempt request).courseOf network retry.backoff made world) =
        List.replicate (made + 1) wire ∧
      ((∃ answer, (client.attempt request).outcome network made world =
          .ok (client.response request answer)) ∨
        Trial.Lost ((client.attempt request).outcome network made world)) := by
  refine ⟨attempts_eq_retried client request retry.backoff retry.retries, ?_, ?_, ?_⟩
  · intro attempt world
    obtain ⟨last, hle, hlost, hlast⟩ :=
      Trial.exists_last (fun k => attempt.outcome network k world) retry.retries
    exact ⟨last, hle, hlost, hlast,
      Trial.goes_retried network attempt retry.backoff world last retry.retries hle hlost hlast⟩
  · intro e he world
    exact goes_attempts_of_refused client network request retry.backoff retry.retries e world he
  · intro wire hw made world
    exact ⟨requests_courseOf client network request wire retry.backoff made world hw,
      outcome_attempt client network request wire made world hw⟩

def recovering : Network := fun sent _ =>
  if sent.isEmpty then .broken 1 else .answered 1 { status := 503 }

/-- Of two retries one is spent: the second attempt is answered, if not well, and there is no third. -/
theorem sendWith_ends_with_settled_recovering :
    let client := Client.new "http://api.test" 30000
    let request : ResolvedRequest := ⟨.get, "/things", [], none⟩
    let wire : WireRequest := ⟨.get, "http://api.test/things", [], none⟩
    let world : World := ⟨[⟨"root", none, []⟩], [], []⟩
    (client.sendWith ⟨2, 5⟩ request).Goes recovering world
        (.ok (client.response request { status := 503 })) { world with sent := [wire, wire] }
        [.sent wire ⟨1, none⟩, .paused 5, .sent wire ⟨1, some { status := 503 }⟩] ∧
    Mark.requests ((client.sendWith ⟨2, 5⟩ request).course recovering world) =
      List.replicate 2 wire := by
  intro client request wire world
  obtain ⟨hloop, hlast, -, hsame⟩ := sendWith_ends_with_settled client recovering request ⟨2, 5⟩
  have hwire : request.wire (client.urlOf request.path) = .ok wire := by decide +kernel
  have hfirst := goes_attempt client recovering request wire world hwire
  have hsecond := goes_attempt client recovering request wire (world.sending wire) hwire
  have hbehind : (client.attempt request).behind recovering 1 world = world.sending wire :=
    congrArg Prod.snd hfirst.exec
  have hbroken : Trial.Lost ((client.attempt request).outcome recovering 0 world) :=
    ⟨_, congrArg Prod.fst hfirst.exec⟩
  have hanswered : (client.attempt request).outcome recovering 1 world =
      .ok (client.response request { status := 503 }) := by
    rw [Trial.outcome, hbehind, hsecond.exec]
    rfl
  obtain ⟨last, -, hlost, hend, hgoes⟩ := hlast (client.attempt request) world
  obtain rfl : last = 1 := by
    rcases Nat.lt_trichotomy last 1 with h | h | h
    · obtain rfl := Nat.lt_one_iff.mp h
      exact absurd hbroken (hend.resolve_left (by decide))
    · exact h
    · obtain ⟨reason, hreason⟩ := hlost 1 h
      cases hanswered.symm.trans hreason
  rw [← hloop, hanswered] at hgoes
  have hafter : (client.attempt request).behind recovering 2 world =
      (world.sending wire).sending wire :=
    (congrArg (fun w => (Trial.exec recovering (client.attempt request) w).2) hbehind).trans
      (congrArg Prod.snd hsecond.exec)
  have hcourse : (client.attempt request).courseOf recovering 5 1 world =
      [.sent wire ⟨1, none⟩, .paused 5, .sent wire ⟨1, some { status := 503 }⟩] := by
    rw [Trial.courseOf, Trial.courseOf, hfirst.course, hfirst.exec, hsecond.course]
    rfl
  rw [hafter, hcourse] at hgoes
  exact ⟨hgoes, by rw [hgoes.course, ← hcourse]; exact (hsame wire hwire 1 world).1⟩

end Client

end ApiTrial
