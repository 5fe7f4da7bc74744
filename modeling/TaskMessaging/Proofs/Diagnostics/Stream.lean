import Mathlib.Algebra.BigOperators.Group.Finset.Basic
import TaskMessaging.Diagnostics.Listener
import TaskMessaging.Proofs.Diagnostics.Channel

/-!
# Diagnostic streams

Clients come and go, fall behind and catch up, while records are made. A run of a listener is any
interleaving of that. Of a run we look at what each client is *told*, that is at the answers of the
channel whenever the client asks for its next line, and at the lines that are *published*, those of
the records that are made while somebody is attached.

## One client

A client that stays has been told about the lines that were published since it was admitted, one
after the other, up to those that still wait for it. `Follows` says so, and since it splits the
lines into those that the client was told about and those that it was not, one step of the listener
adds to either end of it and nothing is lost in between. That the client saw a subsequence, that it
skipped what it was told to have skipped, and that the numbers add up is read off that split.
-/

namespace TaskMessaging

open Channel

/-- Something that happens to a listener. -/
inductive ListenerStep where
  | record (r : MessageRecord)
  /-- A connection comes. -/
  | accept
  /-- A client takes its next line. -/
  | receive (number : Nat)
  | detach (number : Nat)
deriving DecidableEq

namespace ListenerStep

/-- The lines of the records that are made. -/
def lines (steps : List ListenerStep) : List String :=
  steps.flatMap fun
    | .record r => [r.line]
    | _ => []

/-- What happens until a client leaves. -/
def untilLeft (n : Nat) (steps : List ListenerStep) : List ListenerStep :=
  steps.takeWhile (· ≠ .detach n)

theorem lines_append (steps others : List ListenerStep) :
    lines (steps ++ others) = lines steps ++ lines others := List.flatMap_append

end ListenerStep

namespace DiagnosticClient

/-- A line as it goes over the connection. -/
def wire (line : String) : List UInt8 := (line ++ "\n").toUTF8.toList

/-- All that was sent to a client. -/
def stream (c : DiagnosticClient) : List UInt8 := c.sent.flatMap wire

end DiagnosticClient

namespace DiagnosticListener

variable {l : DiagnosticListener} {c : DiagnosticClient} {m n : Nat} {steps : List ListenerStep}
  {told : List Received} {lines made : List String} {first : String}

/-! ## Runs -/

def perform (l : DiagnosticListener) : ListenerStep → DiagnosticListener
  | .record r => l.record r
  | .accept => l.accept.2
  | .receive number => l.receive number
  | .detach number => l.detach number

def run (l : DiagnosticListener) (steps : List ListenerStep) : DiagnosticListener :=
  steps.foldl perform l

/-- What a client is told in one step. -/
def answers (l : DiagnosticListener) (n : Nat) : ListenerStep → List Received
  | .receive m =>
    if m = n then (l.client? n).toList.map fun c ↦ (l.channel.receive c.seen).1 else []
  | _ => []

/-- What a client is told in a run. -/
def transcript (l : DiagnosticListener) (n : Nat) : List ListenerStep → List Received
  | [] => []
  | step :: steps => l.answers n step ++ (l.perform step).transcript n steps

/-- The line that is published in one step. -/
def publication (l : DiagnosticListener) : ListenerStep → List String
  | .record r => if l.subscribers = 0 then [] else [r.line]
  | _ => []

/-- The lines that are published in a run. -/
def publications (l : DiagnosticListener) : List ListenerStep → List String
  | [] => []
  | step :: steps => l.publication step ++ (l.perform step).publications steps

/-- How many published lines still wait for a client. -/
def behind (l : DiagnosticListener) (n : Nat) : Nat :=
  (l.client? n).elim 0 fun c ↦ l.channel.published - c.seen

theorem run_cons (l : DiagnosticListener) (step : ListenerStep) (steps : List ListenerStep) :
    l.run (step :: steps) = (l.perform step).run steps := rfl

theorem run_append (l : DiagnosticListener) (steps others : List ListenerStep) :
    l.run (steps ++ others) = (l.run steps).run others := List.foldl_append

theorem transcript_append (l : DiagnosticListener) (n : Nat) (steps others : List ListenerStep) :
    l.transcript n (steps ++ others) =
      l.transcript n steps ++ (l.run steps).transcript n others := by
  induction steps generalizing l with
  | nil => rfl
  | cons step steps ih =>
    rw [List.cons_append, transcript, ih, transcript, List.append_assoc, run_cons]

/-! ## Clients -/

theorem number_of_client? (h : l.client? n = some c) : c.number = n := by
  rw [client?] at h
  have hc := List.find?_some h
  exact of_decide_eq_true hc

theorem client?_record (l : DiagnosticListener) (r : MessageRecord) (n : Nat) :
    (l.record r).client? n = l.client? n := by
  rw [record]
  split
  · rfl
  · rfl

theorem client?_accept (l : DiagnosticListener) (n : Nat) :
    l.accept.2.client? n = (l.client? n).or
      (if l.subscribers < l.maxConnections ∧ l.connections = n then
        some ⟨l.connections, l.channel.published, [l.greeting]⟩ else none) := by
  rw [accept, subscribers]
  by_cases hroom : l.clients.length < l.maxConnections
  · rw [if_pos hroom, client?, List.find?_append, client?]
    simp [List.find?_cons, hroom]
    split <;> simp_all
  · rw [if_neg hroom, if_neg fun h ↦ hroom h.1, Option.or_none]
    rfl

theorem client?_detach (l : DiagnosticListener) (m n : Nat) :
    (l.detach m).client? n = if m = n then none else l.client? n := by
  rw [client?, detach, List.find?_filter]
  split
  · next h => simp [h]
  · next h =>
    rw [client?]
    congr 1
    funext c
    by_cases hc : c.number = n
    · simp [hc, Ne.symm h]
    · simp [hc]

/-- What an answer of the channel does to a client. -/
theorem advance_eq (channel : Channel) (c : DiagnosticClient) :
    advance channel c =
      ({ c with
          seen := (channel.receive c.seen).2
          sent := c.sent ++ (channel.receive c.seen).1.shown },
        (channel.receive c.seen).1.gap) := by
  rw [advance]
  rcases hr : channel.receive c.seen with ⟨text | count | _, next⟩
  · rfl
  · simp [Received.shown, Received.gap]
  · simp [Received.shown, Received.gap, Channel.eq_of_receive_nothing hr]

theorem receive_eq (l : DiagnosticListener) (n : Nat) :
    l.receive n = (l.client? n).elim l fun c ↦ { l with
      clients := l.clients.map fun d ↦ if d.number = n then (advance l.channel c).1 else d
      lagged := l.lagged + UInt64.ofNat (advance l.channel c).2 } := by
  rw [receive]
  cases l.client? n with
  | none => rfl
  | some c => rfl

theorem client?_receive (l : DiagnosticListener) (m n : Nat) :
    (l.receive m).client? n =
      if m = n then (l.client? n).map fun c ↦ (advance l.channel c).1 else l.client? n := by
  rw [receive_eq]
  cases hm : l.client? m with
  | none =>
    by_cases h : m = n
    · rw [if_pos h, ← h, hm]
      exact hm
    · rw [if_neg h]
      rfl
  | some c =>
    have hc := number_of_client? hm
    have hnumber (d : DiagnosticClient) :
        (if d.number = m then (advance l.channel c).1 else d).number = d.number := by
      split
      · next hd => rw [advance_eq, hd, ← hc]
      · rfl
    -- The clients keep their numbers, so it is the same client that is found.
    have hfind : (l.clients.map fun d ↦ if d.number = m then (advance l.channel c).1 else d).find?
        (fun d ↦ d.number = n) =
          (l.client? n).map fun d ↦ if d.number = m then (advance l.channel c).1 else d := by
      rw [List.find?_map, client?]
      congr 2
      exact funext fun d ↦ congrArg (decide <| · = n) (hnumber d)
    refine hfind.trans ?_
    by_cases h : m = n
    · rw [if_pos h, ← h, hm, Option.map_some, Option.map_some, if_pos hc]
    · rw [if_neg h]
      cases hn : l.client? n with
      | none => rfl
      | some d =>
        have hd := number_of_client? hn
        rw [Option.map_some, if_neg (by omega)]

/-- Nobody comes by a step except a new client. -/
theorem client?_perform_of_none (h : l.client? n = none) {step : ListenerStep}
    (hnew : step = .accept → l.connections ≠ n) : (l.perform step).client? n = none := by
  cases step with
  | record r => rw [perform, client?_record, h]
  | accept =>
    rw [perform, client?_accept, h, if_neg fun hs ↦ hnew rfl hs.2]
    rfl
  | receive m =>
    rw [perform, client?_receive, h]
    split <;> rfl
  | detach m =>
    rw [perform, client?_detach, h]
    split <;> rfl

/-- Nobody has a number that was not given yet. -/
def Numbered (l : DiagnosticListener) : Prop := ∀ n, l.connections ≤ n → l.client? n = none

theorem numbered_create (config : Config.DiagnosticsSection) : (create config).Numbered :=
  fun _ _ ↦ rfl

theorem connections_perform (l : DiagnosticListener) (step : ListenerStep) :
    (l.perform step).connections =
      l.connections + if step = .accept then 1 else 0 := by
  cases step with
  | record r =>
    rw [perform, record]
    split <;> rfl
  | accept =>
    rw [perform, accept]
    split <;> rfl
  | receive m =>
    rw [perform, receive_eq]
    cases l.client? m <;> rfl
  | detach m => rfl

theorem Numbered.perform (h : l.Numbered) (step : ListenerStep) : (l.perform step).Numbered := by
  intro n hn
  rw [connections_perform] at hn
  refine client?_perform_of_none (h n (by omega)) ?_
  rintro rfl
  rw [if_pos rfl] at hn
  omega

theorem Numbered.run (h : l.Numbered) (steps : List ListenerStep) : (l.run steps).Numbered := by
  induction steps generalizing l with
  | nil => exact h
  | cons step steps ih => exact ih (h.perform step)

theorem answers_of_none (h : l.client? n = none) (step : ListenerStep) : l.answers n step = [] := by
  cases step with
  | receive m =>
    rw [answers, h]
    split <;> rfl
  | record | accept | detach => rfl

/-! ## What is published -/

theorem client?_eq_none_of_empty (h : l.subscribers = 0) (n : Nat) : l.client? n = none := by
  rw [client?, List.length_eq_zero_iff.mp h]
  rfl

theorem record_eq (l : DiagnosticListener) (r : MessageRecord) :
    l.record r = if l.subscribers = 0 then l else
      { l with channel := l.channel.publish r.line, published := l.published + 1 } := by
  rw [record, subscribers]
  simp only [List.isEmpty_iff, List.length_eq_zero_iff]

/-- The channel and its count, after the lines that were published. -/
structure Published (l : DiagnosticListener) (lines : List String) : Prop where
  keeps : l.channel.Keeps lines
  published : l.published = UInt64.ofNat lines.length

theorem published_create (config : Config.DiagnosticsSection) : (create config).Published [] :=
  ⟨keeps_create _, rfl⟩

theorem Published.perform (h : l.Published lines) (step : ListenerStep) :
    (l.perform step).Published (lines ++ l.publication step) := by
  have hsame {l' : DiagnosticListener} (hc : l'.channel = l.channel)
      (hp : l'.published = l.published) : l'.Published (lines ++ []) := by
    rw [List.append_nil]
    exact ⟨hc ▸ h.keeps, hp.trans h.published⟩
  cases step with
  | record r =>
    rw [DiagnosticListener.perform, publication, record_eq]
    by_cases hempty : l.subscribers = 0
    · rw [if_pos hempty, if_pos hempty]
      exact hsame rfl rfl
    · rw [if_neg hempty, if_neg hempty]
      refine ⟨h.keeps.publish _, ?_⟩
      rw [List.length_append, List.length_singleton, UInt64.ofNat_add, ← h.published]
      rfl
  | accept =>
    refine hsame ?_ ?_
    all_goals
      rw [DiagnosticListener.perform, accept]
      split <;> rfl
  | receive m =>
    refine hsame ?_ ?_
    all_goals
      rw [DiagnosticListener.perform, receive_eq]
      cases l.client? m <;> rfl
  | detach m => exact hsame rfl rfl

theorem Published.run (h : l.Published lines) (steps : List ListenerStep) :
    (l.run steps).Published (lines ++ l.publications steps) := by
  induction steps generalizing l lines with
  | nil =>
    rw [publications, List.append_nil]
    exact h
  | cons step steps ih =>
    rw [publications, ← List.append_assoc]
    exact ih (h.perform step)

/-! ## One client -/

/-- A client was told about lines, and the others still wait for it. -/
def Follows (l : DiagnosticListener) (lines : List String) (n : Nat) (first : String)
    (told : List Received) (made : List String) : Prop :=
  ∃ c parts, l.client? n = some c ∧ c.sent = first :: shown told ∧
    List.Forall₂ Received.Covers told parts ∧ made = parts.flatten ++ lines.drop c.seen ∧
    c.seen ≤ lines.length

/-- A step adds to what the client was told, or to what waits for it. -/
theorem Follows.perform (hp : l.Published lines) (h : l.Follows lines n first told made)
    {step : ListenerStep} (hstep : step ≠ .detach n) :
    (l.perform step).Follows (lines ++ l.publication step) n first (told ++ l.answers n step)
      (made ++ ListenerStep.lines [step]) := by
  obtain ⟨c, parts, hc, hsent, hparts, rfl, hseen⟩ := h
  -- Most steps leave the client and the channel alone.
  have hsame {l' : DiagnosticListener} (hc' : l'.client? n = some c) :
      l'.Follows (lines ++ []) n first (told ++ []) (parts.flatten ++ lines.drop c.seen ++ []) := by
    rw [List.append_nil, List.append_nil, List.append_nil]
    exact ⟨c, parts, hc', hsent, hparts, rfl, hseen⟩
  cases step with
  | record r =>
    have hsome : l.subscribers ≠ 0 := fun hempty ↦ by
      rw [client?_eq_none_of_empty hempty] at hc
      cases hc
    rw [publication, if_neg hsome]
    refine ⟨c, parts, (client?_record l r n).trans hc, ?_, ?_, ?_, ?_⟩
    · exact hsent.trans (congrArg (first :: shown ·) (List.append_nil told).symm)
    · exact (List.append_nil told).symm ▸ hparts
    · rw [List.drop_append_of_le_length hseen, List.append_assoc]
      rfl
    · exact hseen.trans (List.length_append ▸ Nat.le_add_right _ _)
  | accept =>
    refine hsame ?_
    rw [DiagnosticListener.perform, client?_accept, hc]
    rfl
  | detach m =>
    refine hsame ?_
    rw [DiagnosticListener.perform, client?_detach, if_neg fun h ↦ hstep (congrArg _ h), hc]
  | receive m =>
    by_cases hm : m = n
    · obtain ⟨part, hpart, hdrop, hnext⟩ := hp.keeps.covers_receive hseen
      rw [answers, if_pos hm, hc]
      have hclient := (client?_receive l m n).trans (if_pos hm)
      rw [hc, Option.map_some, advance_eq] at hclient
      refine ⟨_, parts ++ [part], hclient, ?_, ?_, ?_, ?_⟩
      · change c.sent ++ _ = _
        rw [hsent, List.cons_append, shown_append]
        simp [shown]
      · exact List.rel_append hparts (.cons hpart .nil)
      · change _ ++ [] = _ ++ (lines ++ []).drop (l.channel.receive c.seen).2
        rw [List.append_nil, List.append_nil, hdrop, List.flatten_append, List.flatten_singleton,
          List.append_assoc]
      · change (l.channel.receive c.seen).2 ≤ (lines ++ []).length
        rw [List.append_nil]
        exact hnext
    · rw [answers, if_neg hm]
      refine hsame ?_
      rw [DiagnosticListener.perform, client?_receive, if_neg hm, hc]

theorem Follows.run (hp : l.Published lines) (h : l.Follows lines n first told made)
    (hsteps : .detach n ∉ steps) :
    (l.run steps).Follows (lines ++ l.publications steps) n first (told ++ l.transcript n steps)
      (made ++ ListenerStep.lines steps) := by
  induction steps generalizing l lines told made with
  | nil =>
    rw [publications, transcript, List.append_nil, List.append_nil]
    exact (List.append_nil made).symm ▸ h
  | cons step steps ih =>
    rw [List.mem_cons, not_or] at hsteps
    have hlines : ListenerStep.lines (step :: steps) =
        ListenerStep.lines [step] ++ ListenerStep.lines steps :=
      ListenerStep.lines_append [step] steps
    rw [publications, transcript, hlines, ← List.append_assoc, ← List.append_assoc,
      ← List.append_assoc]
    exact ih (hp.perform step) (h.perform hp (Ne.symm hsteps.1)) hsteps.2

/-! ## Skips -/

/-- Who is no further behind than the channel reaches is not told to have skipped anything. -/
theorem skips_answers (hp : l.Published lines) (hb : l.behind n ≤ l.channel.capacity)
    (step : ListenerStep) : skips (l.answers n step) = 0 := by
  cases step with
  | receive m =>
    rw [answers]
    split
    · cases hc : l.client? n with
      | none => rfl
      | some c =>
        rw [behind, hc, Option.elim_some, hp.keeps.published] at hb
        exact hp.keeps.gap_receive hb
    · rfl
  | record | accept | detach => rfl

theorem settings_perform (l : DiagnosticListener) (step : ListenerStep) :
    (l.perform step).channel.capacity = l.channel.capacity ∧
      (l.perform step).greeting = l.greeting := by
  cases step with
  | record r =>
    rw [perform, record]
    split <;> exact ⟨rfl, rfl⟩
  | accept =>
    rw [perform, accept]
    split <;> exact ⟨rfl, rfl⟩
  | receive m =>
    rw [perform, receive_eq]
    cases l.client? m <;> exact ⟨rfl, rfl⟩
  | detach m => exact ⟨rfl, rfl⟩

theorem settings_run (l : DiagnosticListener) (steps : List ListenerStep) :
    (l.run steps).channel.capacity = l.channel.capacity ∧
      (l.run steps).greeting = l.greeting := by
  induction steps generalizing l with
  | nil => exact ⟨rfl, rfl⟩
  | cons step steps ih =>
    rw [run_cons, (ih _).1, (ih _).2]
    exact l.settings_perform step

theorem skips_transcript (hp : l.Published lines)
    (hb : ∀ k, (l.run (steps.take k)).behind n ≤ l.channel.capacity) :
    skips (l.transcript n steps) = 0 := by
  induction steps generalizing l lines with
  | nil => rfl
  | cons step steps ih =>
    rw [transcript, skips_append, skips_answers hp (hb 0), Nat.zero_add]
    refine ih (hp.perform step) fun k ↦ ?_
    rw [(l.settings_perform step).1]
    exact hb (k + 1)

theorem connections_le_run (l : DiagnosticListener) (steps : List ListenerStep) :
    l.connections ≤ (l.run steps).connections := by
  induction steps generalizing l with
  | nil => exact Nat.le_refl _
  | cons step steps ih =>
    refine Nat.le_trans ?_ (ih _)
    rw [connections_perform]
    exact Nat.le_add_right _ _

/-- One step counts what all clients are told to have skipped. -/
theorem lagged_perform (hn : l.Numbered) (step : ListenerStep) {k : Nat} (hk : l.connections ≤ k) :
    (l.perform step).lagged =
      l.lagged + UInt64.ofNat (∑ n ∈ Finset.range k, skips (l.answers n step)) := by
  have hnone {l' : DiagnosticListener} (hl : l'.lagged = l.lagged)
      (h : ∀ n, l.answers n step = []) : l'.lagged =
        l.lagged + UInt64.ofNat (∑ n ∈ Finset.range k, skips (l.answers n step)) := by
    rw [hl, Finset.sum_eq_zero fun n _ ↦ by rw [h]; rfl]
    exact (UInt64.add_zero _).symm
  cases step with
  | record r =>
    refine hnone ?_ fun _ ↦ rfl
    rw [perform, record]
    split <;> rfl
  | accept =>
    refine hnone ?_ fun _ ↦ rfl
    rw [perform, accept]
    split <;> rfl
  | detach m => exact hnone rfl fun _ ↦ rfl
  | receive m =>
    cases hc : l.client? m with
    | none =>
      refine hnone ?_ fun n ↦ ?_
      · rw [perform, receive_eq, hc]
        rfl
      · rw [answers]
        split
        · next h => rw [← h, hc]; rfl
        · rfl
    | some c =>
      have hm : m < k := by
        by_contra hge
        rw [hn m (by omega)] at hc
        cases hc
      rw [Finset.sum_eq_single m (fun n _ hne ↦ by rw [answers, if_neg hne.symm]; rfl)
        (fun h ↦ absurd (Finset.mem_range.mpr hm) h), perform, receive_eq, hc, answers, if_pos rfl,
        hc, Option.elim_some, advance_eq]
      rfl

theorem lagged_run (hn : l.Numbered) {k : Nat} (hk : (l.run steps).connections ≤ k) :
    (l.run steps).lagged =
      l.lagged + UInt64.ofNat (∑ n ∈ Finset.range k, skips (l.transcript n steps)) := by
  induction steps generalizing l with
  | nil =>
    have hzero : ∑ n ∈ Finset.range k, skips (l.transcript n []) = 0 :=
      Finset.sum_eq_zero fun _ _ ↦ rfl
    rw [hzero]
    exact (UInt64.add_zero _).symm
  | cons step steps ih =>
    have hle := l.connections_le_run (step :: steps)
    simp only [transcript, skips_append]
    rw [run_cons, ih (hn.perform step) hk, l.lagged_perform hn step (hle.trans hk),
      Finset.sum_add_distrib, UInt64.ofNat_add, UInt64.add_assoc]

/-! ## Before a client came and after it left -/

theorem transcript_of_le (hn : l.Numbered) (h : (l.run steps).connections ≤ n) :
    l.transcript n steps = [] := by
  induction steps generalizing l with
  | nil => rfl
  | cons step steps ih =>
    have hle := l.connections_le_run (step :: steps)
    rw [transcript, answers_of_none (hn n (hle.trans h)), ih (hn.perform step) h]
    rfl

/-- Who has left does not come back. -/
theorem gone_run (hlt : n < l.connections) (h : l.client? n = none) :
    (l.run steps).client? n = none ∧ l.transcript n steps = [] := by
  induction steps generalizing l with
  | nil => exact ⟨h, rfl⟩
  | cons step steps ih =>
    have hgone : (l.perform step).client? n = none :=
      client?_perform_of_none h fun _ ↦ Nat.ne_of_gt hlt
    have hlt' : n < (l.perform step).connections := by
      rw [connections_perform]
      omega
    obtain ⟨hclient, htranscript⟩ := ih hlt' hgone
    refine ⟨hclient, ?_⟩
    rw [transcript, answers_of_none h, htranscript]
    rfl

/-! ## The law -/

/-- What a client was told and sent, of the lines that were published while it was attached. -/
structure Accounted (l : DiagnosticListener) (n : Nat) (told : List Received)
    (made : List String) : Prop where
  /-- The lines are those that the client was told about, in their order, and those that still wait
  for it. -/
  split : ∃ parts rest, List.Forall₂ Received.Covers told parts ∧ made = parts.flatten ++ rest ∧
    rest.length = l.behind n
  subsequence : (shown told).Sublist made
  balance : (shown told).length + skips told + l.behind n = made.length
  sent : ∃ c, l.client? n = some c ∧
    c.stream = (l.greeting :: shown told).flatMap DiagnosticClient.wire

/-- What a run means for the clients and for the counters. -/
structure StreamLaw (config : Config.DiagnosticsSection) (steps : List ListenerStep) : Prop where
  /-- The channel keeps the newest lines, so many of them. -/
  capacity : IsLeast {m | max config.buffer.toNat 1 ≤ m ∧ ∃ k, m = 2 ^ k}
    ((create config).run steps).channel.capacity
  keeps : ((create config).run steps).channel.Keeps ((create config).publications steps)
  published : ((create config).run steps).published =
    UInt64.ofNat ((create config).publications steps).length
  lagged : ((create config).run steps).lagged = UInt64.ofNat
    (∑ n ∈ Finset.range ((create config).run steps).connections,
      skips ((create config).transcript n steps))
  /-- A client is accounted for when it leaves, or at the end of the run. -/
  client : ∀ before since c, steps = before ++ .accept :: since →
    ((create config).run before).accept.1 = .attached c →
    Accounted ((create config).run (before ++ .accept :: ListenerStep.untilLeft c.number since))
      c.number ((create config).transcript c.number steps)
      (ListenerStep.lines (ListenerStep.untilLeft c.number since))
  /-- A client that is never further behind than the buffer reaches misses nothing. -/
  gapless : ∀ before since c, steps = before ++ .accept :: since →
    ((create config).run before).accept.1 = .attached c →
    (∀ k, ((create config).run (before ++ .accept :: since.take k)).behind c.number ≤
      config.buffer.toNat) →
    skips ((create config).transcript c.number steps) = 0 ∧
      shown ((create config).transcript c.number steps) <+:
        ListenerStep.lines (ListenerStep.untilLeft c.number since)

theorem Follows.accounted (hp : l.Published lines) (h : l.Follows lines n l.greeting told made) :
    l.Accounted n told made := by
  obtain ⟨c, parts, hc, hsent, hparts, rfl, hseen⟩ := h
  have hrest : (lines.drop c.seen).length = l.behind n := by
    rw [List.length_drop, behind, hc, Option.elim_some, hp.keeps.published]
  refine ⟨⟨parts, _, hparts, rfl, hrest⟩, ?_, ?_, c, hc, ?_⟩
  · exact (shown_sublist hparts).trans (List.sublist_append_left _ _)
  · rw [length_flatten hparts, List.length_append, hrest]
  · rw [DiagnosticClient.stream, hsent]

/-- The number of an admitted client is new, and the client is at the end of the channel. -/
theorem follows_accept (hn : l.Numbered) (hp : l.Published lines)
    (h : l.accept.1 = .attached c) :
    c.number = l.connections ∧ l.accept.2.connections = l.connections + 1 ∧
      l.accept.2.Follows lines c.number l.greeting [] [] := by
  have hroom := (accept_attached_iff l).mp ⟨c, h⟩
  have hclient := l.client?_accept l.connections
  rw [hn _ (Nat.le_refl _), if_pos ⟨hroom, rfl⟩] at hclient
  rw [subscribers] at hroom
  rw [accept, if_pos hroom] at h
  obtain rfl := Admission.attached.inj h
  refine ⟨rfl, l.connections_perform .accept, _, [], hclient, rfl, .nil, ?_, ?_⟩
  · rw [hp.keeps.published, List.drop_length]
    rfl
  · exact Nat.le_of_eq hp.keeps.published

/-- What a client is told after it has left is nothing. -/
theorem transcript_untilLeft (hlt : n < l.connections) (steps : List ListenerStep) :
    l.transcript n steps = l.transcript n (ListenerStep.untilLeft n steps) := by
  induction steps generalizing l with
  | nil => rfl
  | cons step steps ih =>
    by_cases hleft : step = .detach n
    · subst hleft
      have hgone := (client?_detach l n n).trans (if_pos rfl)
      rw [ListenerStep.untilLeft, List.takeWhile_cons_of_neg (by simp), transcript, transcript]
      exact (gone_run (l := l.detach n) hlt hgone).2
    · have hlt' : n < (l.perform step).connections := by
        rw [connections_perform]
        omega
      rw [ListenerStep.untilLeft, List.takeWhile_cons_of_pos (by simp [hleft]), transcript,
        transcript, ih hlt']
      rfl

/-- The listener that has admitted a client, in a run that goes on from there. -/
theorem exists_admitted (hn : l.Numbered) (hp : l.Published lines) {before : List ListenerStep}
    (h : (l.run before).accept.1 = .attached c) :
    ∃ (b : DiagnosticListener) (made : List String), b.Published made ∧
      b.Follows made c.number b.greeting [] [] ∧ c.number < b.connections ∧
      b.channel.capacity = l.channel.capacity ∧
      ∀ since, l.run (before ++ .accept :: since) = b.run since ∧
        l.transcript c.number (before ++ .accept :: since) = b.transcript c.number since := by
  have hp' := hp.run before
  obtain ⟨hnumber, hconnections, hfollows⟩ := follows_accept (hn.run before) hp' h
  obtain ⟨hcapacity, hgreeting⟩ := (l.run before).settings_perform .accept
  have hstep : (l.run before).accept.2.Published (lines ++ l.publications before ++ []) :=
    hp'.perform .accept
  rw [List.append_nil] at hstep
  refine ⟨_, _, hstep, hgreeting.symm ▸ hfollows, ?_, ?_, fun since ↦ ⟨?_, ?_⟩⟩
  · omega
  · exact hcapacity.trans (l.settings_run before).1
  · rw [run_append]
    rfl
  · rw [transcript_append, transcript_of_le hn (Nat.le_of_eq hnumber.symm)]
    rfl

section Admitted

variable {before since : List ListenerStep}

/-- A client is accounted for from its admission until it leaves. -/
theorem accounted_of_accept (hn : l.Numbered) (hp : l.Published lines)
    (h : (l.run before).accept.1 = .attached c) (since : List ListenerStep) :
    Accounted (l.run (before ++ .accept :: ListenerStep.untilLeft c.number since)) c.number
      (l.transcript c.number (before ++ .accept :: since))
      (ListenerStep.lines (ListenerStep.untilLeft c.number since)) := by
  obtain ⟨b, made, hb, hfollows, hlt, -, hrun⟩ := exists_admitted hn hp h
  have hstay : .detach c.number ∉ ListenerStep.untilLeft c.number since := fun hmem ↦ by
    simpa using List.all_eq_true.mp List.all_takeWhile _ hmem
  have hend := hfollows.run hb hstay
  rw [← (b.settings_run (ListenerStep.untilLeft c.number since)).2] at hend
  rw [(hrun _).1, (hrun _).2, transcript_untilLeft hlt]
  exact hend.accounted (hb.run _)

/-- A client that always keeps up skips nothing. -/
theorem skips_of_accept (hn : l.Numbered) (hp : l.Published lines)
    (h : (l.run before).accept.1 = .attached c)
    (hnear : ∀ k, (l.run (before ++ .accept :: since.take k)).behind c.number ≤
      l.channel.capacity) :
    skips (l.transcript c.number (before ++ .accept :: since)) = 0 := by
  obtain ⟨b, made, hb, -, -, hcapacity, hrun⟩ := exists_admitted hn hp h
  rw [(hrun since).2]
  refine skips_transcript hb fun k ↦ ?_
  rw [← (hrun _).1, hcapacity]
  exact hnear k

end Admitted

/-- **The law of streams.** Over any run, what every client is sent is the greeting and then, in
their order, the lines that were published while it was attached but for those that it is told to
have skipped, and the listener counts what was published and what was skipped. -/
theorem stream_law (config : Config.DiagnosticsSection) (steps : List ListenerStep) :
    StreamLaw config steps := by
  have hn := numbered_create config
  have hp := published_create config
  refine ⟨?_, ?_, ?_, ?_, ?_, ?_⟩
  · rw [((create config).settings_run steps).1]
    exact isLeast_powerOfTwo _
  · exact (hp.run steps).keeps
  · exact (hp.run steps).published
  · exact (lagged_run hn (Nat.le_refl _)).trans (UInt64.zero_add _)
  · rintro before since c rfl hc
    exact accounted_of_accept hn hp hc since
  · rintro before since c rfl hc hnear
    obtain ⟨parts, rest, hparts, hmade, -⟩ := (accounted_of_accept hn hp hc since).split
    have hskips := skips_of_accept hn hp hc fun k ↦ (hnear k).trans (le_powerOfTwo _)
    exact ⟨hskips, rest, by rw [shown_eq_flatten hparts hskips, hmade]⟩

/-- Two clients of a channel that keeps one line: the first asks too late for the line of `a` and is
told so, the second takes each line at once and misses none. -/
example :
    let a : MessageRecord := ⟨0, ⟨7⟩, "first", ⟨1⟩, .task ⟨2⟩, 0, 0⟩
    let b : MessageRecord := ⟨1, ⟨8⟩, "second", ⟨1⟩, .task ⟨2⟩, 0, 0⟩
    let l := create ⟨true, "127.0.0.1", 0, 2, 1⟩
    let steps := [.accept, .accept, .record a, .receive 1, .record b, .receive 1, .receive 0,
      .receive 0]
    l.transcript 0 steps = [.skipped 1, .line b.line] ∧
      l.transcript 1 steps = [.line a.line, .line b.line] ∧ (l.run steps).lagged = 1 := by
  decide +kernel

end DiagnosticListener

end TaskMessaging
