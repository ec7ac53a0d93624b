import Switchboard.Proofs.Delivery

/-!
# Proofs — Performance

All that comes of an act that leaves the record alone: what it gives, what it says meanwhile, and
the world that it leaves.  What comes of one act after another is put together from what comes of
each, so a handler that is written as a sequence of requests is followed from request to request.

* `Performs`: what comes of an act.
* `Performs.pure`, `Performs.fail`, `Performs.request`: what comes of the smallest ones.
* `Performs.bind`: one act after another.
-/

namespace Switchboard.Setup

variable {σ α β : Type} {s : Setup σ} {scene : Setup.Scene σ}

/-- **One act after another**: if the first one gives a value, the second one is performed with the
record and from the world that the first one leaves. -/
theorem perform_bind {act : Act σ α} {record record' : Record} {w : World σ} {a : α}
    (h : (s.perform scene act record).result w = (.ok a, record')) (next : α → Act σ β) :
    let v := (s.perform scene act record).after w
    (s.perform scene (act >>= next) record).result w =
        (s.perform scene (next a) record').result v ∧
      (s.perform scene (act >>= next) record).after w =
        (s.perform scene (next a) record').after v ∧
      s.said scene (act >>= next) record w =
        s.said scene act record w ++ s.said scene (next a) record' v := by
  induction act generalizing record w with
  | done b =>
      cases h
      exact ⟨rfl, rfl, rfl⟩
  | fail e => cases h
  | ask request more ih =>
      obtain ⟨hresult, hafter, hsaid⟩ := ih _ h
      refine ⟨hresult, hafter, ?_⟩
      exact (congrArg _ hsaid).trans (List.append_assoc _ _ _).symm

/-- Performed with the record from the world `w` on, the act gives `r`, leaves the record as it is
and the world `v`, and says `xs` meanwhile. -/
structure Performs (s : Setup σ) (scene : Scene σ) (record : Record) (act : Act σ α) (w : World σ)
    (r : Except Failure α) (xs : List Utterance) (v : World σ) : Prop where
  result : (s.perform scene act record).result w = (r, record)
  after : (s.perform scene act record).after w = v
  said : s.said scene act record w = xs

namespace Performs

variable {record : Record} {w v u : World σ}

theorem pure (a : α) (w : World σ) : s.Performs scene record (Pure.pure a) w (.ok a) [] w :=
  ⟨rfl, rfl, rfl⟩

theorem fail (e : Failure) (w : World σ) :
    s.Performs scene record (.fail e : Act σ α) w (.error e) [] w :=
  ⟨rfl, rfl, rfl⟩

/-- What comes of an act that goes on with the answer to a request. -/
theorem ask {request : Request σ} {next : Except Failure request.Answer → Act σ α}
    {r : Except Failure α} {xs : List Utterance} {answer : Except Failure request.Answer}
    (hanswer : (s.answer scene record request).result w = answer)
    (hrecord : recordAfter record request = record)
    (hnext : s.Performs scene record (next answer) ((s.answer scene record request).after w)
      r xs v) :
    s.Performs scene record (.ask request next) w r (request.said answer ++ xs) v := by
  subst hanswer
  refine ⟨?_, ?_, ?_⟩
  · rw [perform, Step.result_bind, hrecord]
    exact hnext.result
  · rw [perform, Step.after_bind, hrecord]
    exact hnext.after
  · rw [Setup.said, hrecord]
    exact congrArg _ hnext.said

/-- A request that is answered, other than to put something in the record. -/
theorem request {request : Request σ} {answer : request.Answer}
    (hanswer : (s.answer scene record request).result w = .ok answer)
    (hafter : (s.answer scene record request).after w = v)
    (hrecord : recordAfter record request = record) :
    s.Performs scene record (Act.request request) w (.ok answer) (request.said (.ok answer)) v := by
  subst hafter
  have h : s.Performs scene record (Act.request request) w (.ok answer)
      (request.said (.ok answer) ++ []) ((s.answer scene record request).after w) :=
    ask hanswer hrecord (pure answer _)
  rwa [List.append_nil] at h

/-- **One act after another**: the second one goes on from where the first one has led. -/
theorem bind {act : Act σ α} {next : α → Act σ β} {a : α} {r : Except Failure β}
    {xs ys : List Utterance} (hact : s.Performs scene record act w (.ok a) xs v)
    (hnext : s.Performs scene record (next a) v r ys u) :
    s.Performs scene record (act >>= next) w r (xs ++ ys) u := by
  obtain ⟨hresult, rfl, rfl⟩ := hact
  obtain ⟨hboth, hafter, hsaid⟩ := perform_bind hresult next
  exact ⟨hboth.trans hnext.result, hafter.trans hnext.after,
    hsaid.trans (congrArg _ hnext.said)⟩

/-- After an act that says nothing, what is said is what the next act says. -/
theorem silent {act : Act σ α} {next : α → Act σ β} {a : α} {r : Except Failure β}
    {ys : List Utterance} (hact : s.Performs scene record act w (.ok a) [] v)
    (hnext : s.Performs scene record (next a) v r ys u) :
    s.Performs scene record (act >>= next) w r ys u :=
  hact.bind hnext

end Performs

end Switchboard.Setup
