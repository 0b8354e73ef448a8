import Provisioner.Cluster.Call
import Provisioner.Poll
import Provisioner.Proofs.Program.Asks
/-!
# Calls and waits as they are recorded

A call to the cluster leaves one event.  A wait that looks at one object again and again leaves one
event for each look; every answer but the last leaves open what is waited for, and the last one
decides it, is an error, or comes when the deadline is reached.
-/

namespace Provisioner

open Program

variable {σ : Type} {h : Handler Platform σ} {now : Duration} {s : σ} {log : List (Event Platform)}

/-- The event of a call to the cluster. -/
abbrev Event.ofCall (call : Call) (reply : Except Error call.Answer) (start : Duration) :
    Event Platform := ⟨.cluster call, reply, start⟩

/-- The error that a call to the cluster was answered. -/
def Event.error? : Event Platform → Option Error
  | ⟨.cluster _, .error e, _⟩ => some e
  | _ => none

@[simp] lemma Event.error?_ok (call : Call) (answer : call.Answer) (start : Duration) :
    (Event.ofCall call (.ok answer) start).error? = none := rfl

/-- Making a call is one event, whose answer is the outcome. -/
lemma runs_perform {call : Call} {o : Outcome σ Error call.Answer}
    (hr : Runs h call.perform now s log o) :
    ∃ reply finish t, log = [Event.ofCall call reply now] ∧ o = ⟨some reply, finish, t⟩ := by
  obtain ⟨rest, rfl, hnext⟩ := runs_ask_iff.mp hr
  obtain ⟨rfl, rfl⟩ := runs_ofExcept_iff.mp hnext
  exact ⟨_, _, _, rfl, rfl⟩

/-- A call with something after it: what follows an answer goes on, and an error is the end. -/
lemma runs_perform_bind {β : Type} {call : Call} {f : call.Answer → Work β}
    {o : Outcome σ Error β} (hr : Runs h (call.perform.bind f) now s log o) :
    (∃ answer mid t rest, Runs h (f answer) mid t rest o ∧
      log = Event.ofCall call (.ok answer) now :: rest) ∨
    (∃ e finish t, log = [Event.ofCall call (.error e) now] ∧
      o = ⟨some (.error e), finish, t⟩) := by
  rcases runs_bind hr with ⟨answer, mid, t, l₁, l₂, hcall, hrest, rfl⟩ |
    ⟨e, finish, t, hcall, rfl⟩ | ⟨finish, t, hcall, rfl⟩ <;>
    obtain ⟨reply, finish', t', rfl, ho⟩ := runs_perform hcall <;> cases ho
  · exact .inl ⟨answer, _, _, l₂, hrest, rfl⟩
  · exact .inr ⟨e, _, _, rfl, rfl⟩

/-- A call whose errors are changed leaves one event, and its answer is the outcome. -/
lemma runs_perform_mapError {call : Call} {f : Error → Error} {o : Outcome σ Error call.Answer}
    (hr : Runs h (call.perform.mapError f) now s log o) :
    ∃ reply finish t, log = [Event.ofCall call reply now] ∧
      o = ⟨some (reply.mapError f), finish, t⟩ := by
  obtain ⟨o', hr', rfl⟩ := runs_mapError_iff.mp hr
  obtain ⟨reply, finish, t, rfl, rfl⟩ := runs_perform hr'
  exact ⟨reply, finish, t, rfl, rfl⟩

/-- A call whose errors are changed, and what follows it. -/
lemma runs_perform_mapError_bind {β : Type} {call : Call} {f : Error → Error}
    {next : call.Answer → Work β} {o : Outcome σ Error β}
    (hr : Runs h ((call.perform.mapError f).bind next) now s log o) :
    (∃ e, log = [Event.ofCall call (.error e) now] ∧ o.result = some (.error (f e))) ∨
      ∃ answer mid t rest, log = Event.ofCall call (.ok answer) now :: rest ∧
        Runs h (next answer) mid t rest o := by
  rcases runs_bind hr with ⟨answer, mid, t, l₁, l₂, hcall, hnext, rfl⟩ |
    ⟨e, finish, t, hcall, rfl⟩ | ⟨finish, t, hcall, rfl⟩ <;>
    obtain ⟨reply, finish', t', rfl, ho⟩ := runs_perform_mapError hcall <;>
    cases reply <;> cases ho
  · exact .inr ⟨answer, _, _, l₂, rfl, hnext⟩
  · exact .inl ⟨_, rfl, rfl⟩

/-- A call that succeeds has been answered so, and what it leaves is what follows that answer. -/
lemma runs_perform_ok {call : Call} {answer : call.Answer} {finish : Duration} {t : σ}
    (hr : Runs h call.perform now s log ⟨some (.ok answer), finish, t⟩) :
    (h (.cluster call) now s).reply = .ok answer ∧ t = (h (.cluster call) now s).state := by
  obtain ⟨rest, -, hnext⟩ := runs_ask_iff.mp hr
  obtain ⟨-, ho⟩ := runs_ofExcept_iff.mp hnext
  simp only [Outcome.mk.injEq, Option.some.injEq] at ho
  exact ⟨ho.1.symm, ho.2.2⟩

lemma asksOnly_perform {good : PlatformOp → Prop} {call : Call} (hcall : good (.cluster call)) :
    call.perform.AsksOnly good :=
  .ask hcall fun reply => asksOnly_ofExcept reply

/-- A handler that gives every call an answer of its own at once, and reaches no monitoring
server. -/
def answering (reply : (call : Call) → Except Error call.Answer) : Handler Platform Unit
  | .cluster call, _, _ => ⟨reply call, 0, ()⟩
  | .monitoring _, _, _ => ⟨.error ⟨""⟩, 0, ()⟩

/-! ### Looking at one object -/

variable {α : Type} {call : Call} {read : call.Answer → Except Error (Option α)}

/-- Wait until an answer to `call`, as `read` takes it, gives a value or an error. -/
def Poll.watch (p : Poll) (description : String) (call : Call)
    (read : call.Answer → Except Error (Option α)) : Work α :=
  p.waitFor description (call.perform.bind fun answer => ofExcept (read answer))

/-- A wait that looks at an object makes no other call. -/
lemma asksOnly_watch {good : PlatformOp → Prop} (hcall : good (.cluster call)) (p : Poll)
    (description : String) : (p.watch description call read).AsksOnly good :=
  ((asksOnly_perform hcall).bind fun answer =>
    asksOnly_ofExcept (read answer)).waitFor p description

/-- The events of looking at an object from `now` on: every answer but the last leaves open what is
waited for, and `reply` is the last one. -/
inductive Looks (call : Call) (read : call.Answer → Except Error (Option α)) :
    Duration → List (Event Platform) → Except Error call.Answer → Prop
  | last (now : Duration) (reply : Except Error call.Answer) :
      Looks call read now [Event.ofCall call reply now] reply
  | again {now later : Duration} {log : List (Event Platform)} {answer : call.Answer}
      {reply : Except Error call.Answer} (undecided : read answer = .ok none)
      (looks : Looks call read later log reply) :
      Looks call read now (Event.ofCall call (.ok answer) now :: log) reply

/-- The event is that of a certain call. -/
def Event.Asks (e : Event Platform) (call : Call) : Prop :=
  ∃ reply start, e = Event.ofCall call reply start

/-- The last look is the answer that counts; those before it were answered and left it open. -/
lemma Looks.eq_append {now : Duration} {log : List (Event Platform)}
    {reply : Except Error call.Answer} (hl : Looks call read now log reply) :
    ∃ before start, log = before ++ [Event.ofCall call reply start] ∧
      ∀ e ∈ before, ∃ answer earlier,
        e = Event.ofCall call (.ok answer) earlier ∧ read answer = .ok none := by
  induction hl with
  | last now reply => exact ⟨[], now, rfl, by simp⟩
  | @again now later log answer reply undecided looks ih =>
    obtain ⟨before, start, rfl, hbefore⟩ := ih
    refine ⟨Event.ofCall call (.ok answer) now :: before, start, rfl, ?_⟩
    intro e he
    rcases List.mem_cons.mp he with rfl | he
    · exact ⟨answer, now, rfl, undecided⟩
    · exact hbefore e he

lemma Looks.forall_asks {now : Duration} {log : List (Event Platform)}
    {reply : Except Error call.Answer} (hl : Looks call read now log reply) :
    ∀ e ∈ log, e.Asks call := by
  induction hl with
  | last now reply => simp [Event.Asks]
  | again undecided looks ih => simpa [Event.Asks] using ih

/-- Only the last look can have been answered an error. -/
lemma Looks.error?_dropLast {now : Duration} {log : List (Event Platform)}
    {reply : Except Error call.Answer} (hl : Looks call read now log reply) :
    ∀ e ∈ log.dropLast, e.error? = none := by
  obtain ⟨before, start, rfl, hbefore⟩ := hl.eq_append
  rw [List.dropLast_concat]
  intro e he
  obtain ⟨answer, earlier, rfl, -⟩ := hbefore e he
  rfl

lemma Looks.error?_ok {now : Duration} {log : List (Event Platform)} {answer : call.Answer}
    (hl : Looks call read now log (.ok answer)) : ∀ e ∈ log, e.error? = none := by
  obtain ⟨before, start, rfl, hbefore⟩ := hl.eq_append
  intro e he
  rcases List.mem_append.mp he with he | he
  · obtain ⟨answer, earlier, rfl, -⟩ := hbefore e he
    rfl
  · rw [List.mem_singleton.mp he, Event.error?_ok]

lemma Looks.ne_nil {now : Duration} {log : List (Event Platform)}
    {reply : Except Error call.Answer} (hl : Looks call read now log reply) : log ≠ [] := by
  cases hl <;> simp

/-- The last look comes after others at the same object. -/
lemma Looks.exists_last {now : Duration} {log : List (Event Platform)}
    {reply : Except Error call.Answer} (hl : Looks call read now log reply) :
    ∃ before start, log = before ++ [Event.ofCall call reply start] ∧
      ∀ e ∈ before, e.Asks call := by
  obtain ⟨before, start, rfl, -⟩ := hl.eq_append
  exact ⟨before, start, rfl, fun e he => hl.forall_asks e (List.mem_append_left _ he)⟩

/-- Looks at a subscription that end with a name were made at others that gave none. -/
lemma Looks.exists_naming {key : ObjectKey} {now : Duration} {log : List (Event Platform)}
    {read : Option Subscription → Except Error (Option α)} {found : Option Subscription}
    {name? : Subscription → Option α} {name : α}
    (hl : Looks (.getSubscription key) read now log (.ok found))
    (named : found.bind name? = some name) :
    ∃ before subscription start,
      log = before ++ [Event.ofCall (.getSubscription key) (.ok (some subscription)) start] ∧
      (∀ e ∈ before, e.Asks (.getSubscription key)) ∧ name? subscription = some name := by
  obtain ⟨before, start, rfl, looking⟩ := hl.exists_last
  obtain ⟨subscription, rfl, hname⟩ := Option.bind_eq_some_iff.mp named
  exact ⟨before, subscription, start, rfl, looking, hname⟩

/-- A wait that ends with an error: the last look was answered one or gave one, or it left open
what is waited for and the deadline is reached. -/
inductive WaitFailed (p : Poll) (description : String) (call : Call)
    (read : call.Answer → Except Error (Option α)) (start : Duration) :
    Duration → List (Event Platform) → Error → Duration → Prop
  | answered {now finish : Duration} {log : List (Event Platform)} {e : Error}
      (looks : Looks call read now log (.error e)) :
      WaitFailed p description call read start now log e finish
  | refused {now finish : Duration} {log : List (Event Platform)} {answer : call.Answer}
      {e : Error} (looks : Looks call read now log (.ok answer))
      (refusal : read answer = .error e) :
      WaitFailed p description call read start now log e finish
  | expired {now finish : Duration} {log : List (Event Platform)} {answer : call.Answer}
      (looks : Looks call read now log (.ok answer)) (undecided : read answer = .ok none)
      (deadline : p.timeout ≤ finish - start) :
      WaitFailed p description call read start now log (.timeout description p.timeout) finish

/-- A wait that is not followed to its end: no answer decided it. -/
inductive WaitOpen (call : Call) (read : call.Answer → Except Error (Option α)) :
    Duration → List (Event Platform) → Prop
  | unseen (now : Duration) : WaitOpen call read now []
  | seen {now : Duration} {log : List (Event Platform)} {answer : call.Answer}
      (looks : Looks call read now log (.ok answer)) (undecided : read answer = .ok none) :
      WaitOpen call read now log

variable {p : Poll} {description : String} {start finish : Duration}

/-- A wait that fails has looked at its object once at least. -/
lemma WaitFailed.exists_looks {e : Error}
    (hw : WaitFailed p description call read start now log e finish) :
    ∃ reply, Looks call read now log reply := by
  cases hw with
  | answered looks => exact ⟨_, looks⟩
  | refused looks _ => exact ⟨_, looks⟩
  | expired looks _ _ => exact ⟨_, looks⟩

lemma WaitFailed.forall_asks {e : Error}
    (hw : WaitFailed p description call read start now log e finish) : ∀ e ∈ log, e.Asks call := by
  obtain ⟨reply, looks⟩ := hw.exists_looks
  exact looks.forall_asks

lemma WaitFailed.error?_dropLast {e : Error}
    (hw : WaitFailed p description call read start now log e finish) :
    ∀ e ∈ log.dropLast, e.error? = none := by
  obtain ⟨reply, looks⟩ := hw.exists_looks
  exact looks.error?_dropLast

lemma WaitOpen.forall_asks (hw : WaitOpen call read now log) : ∀ e ∈ log, e.Asks call := by
  cases hw with
  | unseen => simp
  | seen looks _ => exact looks.forall_asks

lemma WaitOpen.error?_eq_none (hw : WaitOpen call read now log) : ∀ e ∈ log, e.error? = none := by
  cases hw with
  | unseen => simp
  | seen looks _ => exact looks.error?_ok

/-- How a wait that looks at an object can go. -/
inductive Watched (p : Poll) (description : String) (call : Call)
    (read : call.Answer → Except Error (Option α)) (start now : Duration)
    (log : List (Event Platform)) : Outcome σ Error α → Prop
  | found {answer : call.Answer} {value : α} {finish : Duration} {t : σ}
      (looks : Looks call read now log (.ok answer)) (decided : read answer = .ok (some value)) :
      Watched p description call read start now log ⟨some (.ok value), finish, t⟩
  | failed {e : Error} {finish : Duration} {t : σ}
      (failure : WaitFailed p description call read start now log e finish) :
      Watched p description call read start now log ⟨some (.error e), finish, t⟩
  | unended {finish : Duration} {t : σ} (unended : WaitOpen call read now log) :
      Watched p description call read start now log ⟨none, finish, t⟩

namespace Watched

variable {p : Poll} {description : String} {start later : Duration} {o : Outcome σ Error α}

/-- A look that leaves open what is waited for, before the rest of a wait. -/
lemma cons {answer : call.Answer} (undecided : read answer = .ok none)
    (hw : Watched p description call read start later log o) :
    Watched p description call read start now (Event.ofCall call (.ok answer) now :: log) o := by
  cases hw with
  | found looks decided => exact .found (looks.again undecided) decided
  | failed failure =>
    cases failure with
    | answered looks => exact .failed (.answered (looks.again undecided))
    | refused looks refusal => exact .failed (.refused (looks.again undecided) refusal)
    | expired looks open' deadline =>
      exact .failed (.expired (looks.again undecided) open' deadline)
  | unended unended =>
    cases unended with
    | unseen => exact .unended (.seen (.last now _) undecided)
    | seen looks open' => exact .unended (.seen (looks.again undecided) open')

end Watched

/-- One look is one event: an error that was answered ends it, and an answer is read. -/
lemma runs_look {o : Outcome σ Error (Option α)}
    (hr : Runs h (call.perform.bind fun answer => ofExcept (read answer)) now s log o) :
    (∃ e finish t, log = [Event.ofCall call (.error e) now] ∧
      o = ⟨some (.error e), finish, t⟩) ∨
    (∃ answer finish t, log = [Event.ofCall call (.ok answer) now] ∧
      o = ⟨some (read answer), finish, t⟩) := by
  rcases runs_perform_bind hr with ⟨answer, mid, t, rest, hread, rfl⟩ | ⟨e, finish, t, rfl, rfl⟩
  · obtain ⟨rfl, rfl⟩ := runs_ofExcept_iff.mp hread
    exact .inr ⟨answer, _, _, rfl, rfl⟩
  · exact .inl ⟨e, _, _, rfl, rfl⟩

variable {p : Poll} {description : String} {start : Duration} {o : Outcome σ Error α}

lemma runs_waitRounds {n : Nat}
    (hr : Runs h (p.waitRounds description
      (call.perform.bind fun answer => ofExcept (read answer)) start n) now s log o) :
    Watched p description call read start now log o := by
  induction n generalizing now s log with
  | zero =>
    obtain ⟨rfl, rfl⟩ := runs_stall_iff.mp hr
    exact .unended (.unseen now)
  | succ n ih =>
    rcases runs_bind hr with ⟨found, mid, t, l₁, l₂, hlook, hrest, rfl⟩ |
      ⟨e, finish, t, hlook, rfl⟩ | ⟨finish, t, hlook, rfl⟩ <;>
      rcases runs_look hlook with ⟨e', finish', t', rfl, ho⟩ | ⟨answer, finish', t', rfl, ho⟩ <;>
      simp only [Outcome.mk.injEq, Option.some.injEq, Except.error.injEq, reduceCtorEq,
        false_and] at ho
    · obtain ⟨hread, rfl, rfl⟩ := ho
      cases found with
      | some value =>
        obtain ⟨rfl, rfl⟩ := runs_done_iff.mp hrest
        exact .found (.last now _) hread.symm
      | none =>
        -- the clock is read after the look, and decides between giving up and the next round
        have hround := runs_clock_iff.mp hrest
        split at hround
        case isTrue hdeadline =>
          obtain ⟨rfl, rfl⟩ := runs_fail_iff.mp hround
          exact .failed (.expired (.last now _) hread.symm hdeadline)
        case isFalse =>
          exact .cons hread.symm (ih (runs_sleep_iff.mp hround))
    · obtain ⟨rfl, rfl, rfl⟩ := ho
      exact .failed (.answered (.last now _))
    · exact .failed (.refused (.last now _) ho.1.symm)

/-- How a wait goes, whatever its calls are answered. -/
lemma runs_watch (hr : Runs h (p.watch description call read) now s log o) :
    Watched p description call read now now log o :=
  runs_waitRounds (runs_clock_iff.mp hr)

end Provisioner
