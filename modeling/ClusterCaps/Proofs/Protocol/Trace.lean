import ClusterCaps.Proofs.Protocol.Step

set_option autoImplicit false

namespace ClusterCaps

namespace Protocol

def Mark.settle : Mark → Phase → Phase
  | .forgot, _ => .uninitialized
  | .completed _ (.ok _), _ => .ready
  | _, earlier => earlier

def Mark.blame : Mark → Option PassError → Option PassError
  | .forgot, _ => none
  | .completed _ (.ok _), _ => none
  | .completed _ (.error error), _ => some error
  | _, earlier => earlier

def Mark.count : Mark → Nat
  | .completed _ _ => 1
  | _ => 0

def Mark.Quiet : Mark → Prop
  | .forgot => False
  | .completed _ _ => False
  | _ => True

def settled (history : List Event) : Phase :=
  history.foldr (fun event earlier => event.mark.settle earlier) .uninitialized

def blamed? (history : List Event) : Option PassError :=
  history.foldr (fun event earlier => event.mark.blame earlier) none

def passesOf (history : List Event) : Nat :=
  history.foldr (fun event earlier => event.mark.count + earlier) 0

-- The events of `during` are all since the thread has called `ensure`, and it has made no other call.
def Calling (thread : Nat) (during history : List Event) : Prop :=
  (∃ before, history = during ++ ⟨thread, .called .ensure⟩ :: before) ∧
    ∀ event ∈ during, event.thread = thread → ∀ ask, event.mark ≠ .called ask

def Foreign (thread : Nat) (events : List Event) : Prop := ∀ event ∈ events, event.thread ≠ thread

def Noted (thread seen : Nat) (history : List Event) : Prop :=
  ∃ recent earlier during, history = recent ++ ⟨thread, .noted⟩ :: earlier ∧ Foreign thread recent ∧
    passesOf earlier = seen ∧ Calling thread during earlier

def Began (thread : Nat) (phase : Phase) (history : List Event) : Prop :=
  ∃ recent earlier, history = recent ++ ⟨thread, .began phase⟩ :: earlier ∧ Foreign thread recent

def Failed (thread : Nat) (error : PassError) (history : List Event) : Prop :=
  ∃ during user first, Calling thread during history ∧ ⟨user, .completed first (.error error)⟩ ∈ during

def Event.Lawful (event : Event) (earlier : List Event) : Prop :=
  match event.mark with
  | .returned (.error error) => Failed event.thread error earlier
  | .completed true (.ok _) => settled earlier = .uninitialized
  | _ => True

def Lawful : List Event → Prop
  | [] => True
  | event :: earlier => event.Lawful earlier ∧ Lawful earlier

theorem quiet_keeps (event : Event) (history : List Event) (quiet : event.mark.Quiet) :
    settled (event :: history) = settled history ∧ blamed? (event :: history) = blamed? history ∧
      passesOf (event :: history) = passesOf history := by
  obtain ⟨thread, mark⟩ := event
  cases mark with
  | forgot => exact False.elim quiet
  | completed _ _ => exact False.elim quiet
  | called _ => exact ⟨rfl, rfl, Nat.zero_add _⟩
  | noted => exact ⟨rfl, rfl, Nat.zero_add _⟩
  | began _ => exact ⟨rfl, rfl, Nat.zero_add _⟩
  | returned _ => exact ⟨rfl, rfl, Nat.zero_add _⟩

theorem passes_of_append (later earlier : List Event) :
    passesOf (later ++ earlier) = passesOf later + passesOf earlier := by
  induction later with
  | nil => exact (Nat.zero_add _).symm
  | cons event later ih =>
      change event.mark.count + passesOf (later ++ earlier) = event.mark.count + passesOf later + passesOf earlier
      rw [ih, Nat.add_assoc]

theorem settled_cases (history : List Event) : settled history = .uninitialized ∨ settled history = .ready := by
  induction history with
  | nil => exact Or.inl rfl
  | cons event history ih =>
      obtain ⟨thread, mark⟩ := event
      cases mark with
      | forgot => exact Or.inl rfl
      | completed first outcome =>
          cases outcome with
          | ok _ => exact Or.inr rfl
          | error _ => exact ih
      | called _ => exact ih
      | noted => exact ih
      | began _ => exact ih
      | returned _ => exact ih

theorem settled_unready (history : List Event) (unready : settled history ≠ .ready) :
    settled history = .uninitialized := (settled_cases history).resolve_right unready

theorem blamed_recent (recent earlier : List Event) (error : PassError)
    (blamed : blamed? (recent ++ earlier) = some error) (some : passesOf recent ≠ 0) :
    ∃ user first, ⟨user, .completed first (.error error)⟩ ∈ recent := by
  induction recent with
  | nil => exact absurd rfl some
  | cons event recent ih =>
      by_cases quiet : event.mark.Quiet
      · rw [(quiet_keeps event recent quiet).2.2] at some
        rw [List.cons_append, (quiet_keeps event _ quiet).2.1] at blamed
        obtain ⟨user, first, member⟩ := ih blamed some
        exact ⟨user, first, List.mem_cons_of_mem event member⟩
      · obtain ⟨thread, mark⟩ := event
        cases mark with
        | forgot => cases blamed
        | completed first outcome =>
            cases outcome with
            | ok _ => cases blamed
            | error cause =>
                cases blamed
                exact ⟨thread, first, List.mem_cons_self⟩
        | called _ => exact absurd trivial quiet
        | noted => exact absurd trivial quiet
        | began _ => exact absurd trivial quiet
        | returned _ => exact absurd trivial quiet

theorem foreign_nil (thread : Nat) : Foreign thread [] := fun _ member => absurd member List.not_mem_nil

theorem foreign_cons (thread : Nat) (event : Event) (events : List Event) (other : event.thread ≠ thread)
    (foreign : Foreign thread events) : Foreign thread (event :: events) := by
  intro later member
  rcases List.mem_cons.mp member with rfl | member
  · exact other
  · exact foreign later member

theorem calling_now (thread : Nat) (history : List Event) :
    Calling thread [] (⟨thread, .called .ensure⟩ :: history) :=
  ⟨⟨history, rfl⟩, fun _ member => absurd member List.not_mem_nil⟩

theorem calling_cons (thread : Nat) (event : Event) (during history : List Event)
    (kept : event.thread = thread → ∀ ask, event.mark ≠ .called ask) (calling : Calling thread during history) :
    Calling thread (event :: during) (event :: history) := by
  obtain ⟨⟨before, whole⟩, single⟩ := calling
  refine ⟨⟨before, by rw [whole, List.cons_append]⟩, ?_⟩
  intro later member
  rcases List.mem_cons.mp member with rfl | member
  · exact kept
  · exact single later member

theorem calling_append (thread : Nat) (recent during history : List Event) (foreign : Foreign thread recent)
    (calling : Calling thread during history) : Calling thread (recent ++ during) (recent ++ history) := by
  induction recent with
  | nil => exact calling
  | cons event recent ih =>
      refine calling_cons thread event _ _ (fun same => absurd same (foreign event List.mem_cons_self)) ?_
      exact ih fun later member => foreign later (List.mem_cons_of_mem event member)

theorem noted_calling (thread seen : Nat) (history : List Event) (noted : Noted thread seen history) :
    ∃ during, Calling thread during history := by
  obtain ⟨recent, earlier, during, whole, foreign, _, calling⟩ := noted
  refine ⟨recent ++ ⟨thread, .noted⟩ :: during, ?_⟩
  rw [whole]
  exact calling_append thread recent _ _ foreign (calling_cons thread _ _ _ (fun _ _ => nofun) calling)

theorem noted_cons (thread seen : Nat) (event : Event) (history : List Event) (other : event.thread ≠ thread)
    (noted : Noted thread seen history) : Noted thread seen (event :: history) := by
  obtain ⟨recent, earlier, during, whole, foreign, counted, calling⟩ := noted
  refine ⟨event :: recent, earlier, during, by rw [whole, List.cons_append], ?_, counted, calling⟩
  exact foreign_cons thread event recent other foreign

theorem began_cons (thread : Nat) (phase : Phase) (event : Event) (history : List Event)
    (other : event.thread ≠ thread) (began : Began thread phase history) : Began thread phase (event :: history) := by
  obtain ⟨recent, earlier, whole, foreign⟩ := began
  exact ⟨event :: recent, earlier, by rw [whole, List.cons_append], foreign_cons thread event recent other foreign⟩

theorem failed_cons (thread : Nat) (error : PassError) (event : Event) (history : List Event)
    (kept : event.thread = thread → ∀ ask, event.mark ≠ .called ask) (failed : Failed thread error history) :
    Failed thread error (event :: history) := by
  obtain ⟨during, user, first, calling, member⟩ := failed
  exact ⟨event :: during, user, first, calling_cons thread event during history kept calling,
    List.mem_cons_of_mem event member⟩

-- A thread that has seen fewer passes than there are now has been there when the last of them failed.
theorem noted_failed (thread seen : Nat) (history : List Event) (error : PassError)
    (noted : Noted thread seen history) (more : passesOf history ≠ seen)
    (blamed : blamed? history = some error) : Failed thread error history := by
  obtain ⟨recent, earlier, during, whole, foreign, counted, calling⟩ := noted
  subst whole
  have some : passesOf recent ≠ 0 := by
    intro none
    apply more
    rw [passes_of_append, none, (quiet_keeps ⟨thread, .noted⟩ earlier trivial).2.2, counted, Nat.zero_add]
  obtain ⟨user, first, member⟩ := blamed_recent recent _ error blamed some
  refine ⟨recent ++ ⟨thread, .noted⟩ :: during, user, first, ?_, List.mem_append_left _ member⟩
  exact calling_append thread recent _ _ foreign (calling_cons thread _ _ _ (fun _ _ => nofun) calling)

theorem lawful_append (later earlier : List Event) (lawful : Lawful (later ++ earlier)) : Lawful earlier := by
  induction later with
  | nil => exact lawful
  | cons event later ih => exact ih lawful.2

theorem lawful_at (later earlier : List Event) (event : Event) (lawful : Lawful (later ++ event :: earlier)) :
    event.Lawful earlier := (lawful_append later _ lawful).1

end Protocol

end ClusterCaps
