import KestrelRunpod.Serverless.Activation

/-!
# Creates and the expiry of their quote

An activation checks that its quote is fresh before it reads the catalog and the inventory, and
not again: the create goes out at the clock read after both.
-/

namespace KestrelRunpod.Serverless

open Interleave Catalog Numeric
open Traverse (except_bind_ok)

variable {d : Digests} {α β : Type} {h h' : Past d}

/-- The catalog reads of a quote that the catalog gives. -/
theorem observePlannedQuote_ends {request : QuoteRequest} {offers : List GPUOffer}
    {observedAt : Instant} {current : CapacityQuote}
    (is : currentQuote (d := d) request offers observedAt = .ok current) :
    ∃ requirements, (observePlannedQuote (d := d) request).Ends h
      (⟨.now, observedAt⟩ :: ⟨.recv (.listGpus requirements), .ok offers⟩ ::
        ⟨.send (.listGpus requirements), ()⟩ :: h) (.ok current) := by
  unfold currentQuote at is
  simp only [↓refuse_bind_ok, except_bind_ok] at is
  obtain ⟨ga, requirements, required, ⟨⟩, numbers, selection, chosen, quoted⟩ := is
  refine ⟨requirements, Program.Reaches.ends ?_⟩
  unfold observePlannedQuote
  have selected : (observeCatalog (d := d) request.endpoint.spec).Ends h
      (⟨.now, observedAt⟩ :: ⟨.recv (.listGpus requirements), .ok offers⟩ ::
        ⟨.send (.listGpus requirements), ()⟩ :: h) (.ok selection) := by
    refine Program.Reaches.ends ?_
    unfold observeCatalog
    refine reaches_refuse ga ?_
    refine reaches_check required ?_
    refine reaches_await offers ?_
    refine reaches_check numbers ?_
    refine reaches_now observedAt ?_
    rw [chosen]
    exact .refl _ _
  refine selected.reaches_bind ?_
  rw [quoted]
  exact .refl _ _

/-- An activation that passes every check dispatches its create. -/
theorem activatePlannedEndpoint_reaches {request : QuoteRequest} {quote : CapacityQuote}
    {acceptedCostCeilingUsd : Decimal} {checkedAt observedAt : Instant}
    {offers : List GPUOffer} {inventory : List EndpointResource}
    (admitted : Admitted d request quote acceptedCostCeilingUsd checkedAt observedAt offers
      inventory) (createStartedAt : Instant) :
    ∃ requirements createRequest rest,
      (activatePlannedEndpoint (d := d) request quote acceptedCostCeilingUsd none).Reaches []
        (⟨.send (.createEndpoint createRequest), ()⟩ ::
          beforeCreate requirements checkedAt observedAt createStartedAt offers inventory)
        rest := by
  obtain ⟨current, is, steady⟩ := admitted.current
  obtain ⟨requirements, observed⟩ := observePlannedQuote_ends (h := [⟨.now, checkedAt⟩]) is
  obtain ⟨name, createRequest, payload, creates, written, digested⟩ :=
    validatePlannedRequestBinding_ok admitted.bound
  refine ⟨requirements, createRequest, ?_⟩
  apply Exists.intro
  unfold activatePlannedEndpoint
  apply reaches_check admitted.bound
  apply reaches_now checkedAt
  apply reaches_check admitted.fresh
  apply observed.reaches_bind
  apply reaches_check steady
  apply reaches_await inventory
  apply reaches_refuse (by simp [admitted.unnamed])
  apply reaches_check creates
  apply reaches_check written
  apply reaches_refuse (by simp [digested])
  apply reaches_now createStartedAt
  exact .perform () (.refl _ _)

/-! ## Clocks and answers -/

/-- How often the clock was read. -/
def clockReads (h : Past d) : Nat :=
  (h.filter fun e => match e.op with
    | .now => true
    | _ => false).length

/-- What the clock last read. -/
def lastClock : Past d → Option Instant
  | [] => none
  | ⟨.now, t⟩ :: _ => some t
  | _ :: h => lastClock h

/-- What an activation reads up to its create: a clock that does not go back, the offers of the
catalog, and the inventory. -/
structure Reads (d : Digests) where
  clock : Nat → Instant
  monotone : ∀ m n, m ≤ n → clock m ≤ clock n
  offers : Except Exn (List GPUOffer)
  inventory : Except Exn (List EndpointResource)

/-- The history is answered by the reads, however long each answer took. -/
def Reads.Answer (reads : Reads d) : Past d → Prop
  | [] => True
  | e :: h => reads.Answer h ∧
      match e with
      | ⟨.now, t⟩ => t = reads.clock (clockReads h)
      | ⟨.recv (.listGpus _), reply⟩ => reply = reads.offers
      | ⟨.recv .listEndpoints, reply⟩ => creates h = [] → reply = reads.inventory
      | _ => True

theorem Reads.Answer.suffix {reads : Reads d} {later earlier : Past d}
    (answered : reads.Answer (later ++ earlier)) : reads.Answer earlier := by
  induction later with
  | nil => exact answered
  | cons e later ih => exact ih answered.1

/-- The activation passes every check before its create. -/
def Reads.Admit (reads : Reads d) (request : QuoteRequest) (quote : CapacityQuote)
    (acceptedCostCeilingUsd : Decimal) : Prop :=
  ∃ offers inventory, reads.offers = .ok offers ∧ reads.inventory = .ok inventory ∧
    Admitted d request quote acceptedCostCeilingUsd (reads.clock 0) (reads.clock 1) offers inventory

/-- Every create that the activation dispatches goes out before the quote expires, by the last
clock read before it. -/
def Timely (request : QuoteRequest) (quote : CapacityQuote) (acceptedCostCeilingUsd : Decimal)
    (priorReceipt : Option (ActivationReceipt d)) (reads : Reads d) : Prop :=
  ∀ history rest, (activatePlannedEndpoint request quote acceptedCostCeilingUsd
      priorReceipt).Reaches [] history rest → reads.Answer history →
    ∀ later earlier r, history = later ++ ⟨.send (.createEndpoint r), ()⟩ :: earlier →
      ∃ t, lastClock earlier = some t ∧ t < quote.expiresAt

/-- An activation that passes every check creates, whatever the time has become. -/
theorem Reads.Admit.late {reads : Reads d} {request : QuoteRequest} {quote : CapacityQuote}
    {acceptedCostCeilingUsd : Decimal}
    (admits : reads.Admit request quote acceptedCostCeilingUsd)
    (late : quote.expiresAt ≤ reads.clock 2) :
    ¬ Timely request quote acceptedCostCeilingUsd none reads := by
  intro timely
  obtain ⟨offers, inventory, offered, listed, admitted⟩ := admits
  obtain ⟨requirements, createRequest, rest, reach⟩ :=
    activatePlannedEndpoint_reaches admitted (reads.clock 2)
  have answered : reads.Answer (⟨.send (.createEndpoint createRequest), ()⟩ ::
      beforeCreate requirements (reads.clock 0) (reads.clock 1) (reads.clock 2) offers
        inventory) := by
    simp [Reads.Answer, beforeCreate, clockReads, creates, offered, listed]
  obtain ⟨t, read, early⟩ := timely _ rest reach answered [] _ createRequest rfl
  simp only [beforeCreate, lastClock, Option.some.injEq] at read
  rw [← read] at early
  exact absurd late (not_le.mpr early)

/-- **A create can outlive its quote.**  The create of an activation goes out before its quote
expires exactly when it does not go out at all, or the catalog and the inventory were read
before the quote expired: nothing checks the quote after those reads. -/
theorem create_before_expiry (request : QuoteRequest) (quote : CapacityQuote)
    (acceptedCostCeilingUsd : Decimal) (priorReceipt : Option (ActivationReceipt d))
    (reads : Reads d) :
    Timely request quote acceptedCostCeilingUsd priorReceipt reads ↔
    ¬ (priorReceipt = none ∧ reads.Admit request quote acceptedCostCeilingUsd ∧
      quote.expiresAt ≤ reads.clock 2) := by
  constructor
  · rintro timely ⟨rfl, admits, late⟩
    exact admits.late late timely
  · intro short history rest reach answered later earlier r split
    have walk := activatePlannedEndpoint_ensures (d := d) request quote acceptedCostCeilingUsd
      priorReceipt
    obtain ⟨fresh, requirements, checkedAt, observedAt, createStartedAt, offers, inventory, rfl,
      admitted, -⟩ := reach.permitted (fun _ _ => trivial) walk.safe split List.nil_suffix
    rw [split] at answered
    have upTo := answered.suffix.1
    simp [Reads.Answer, beforeCreate, clockReads, creates] at upTo
    obtain ⟨⟨⟨⟨checked, offered⟩, observed⟩, listed⟩, started⟩ := upTo
    rw [checked, observed] at admitted
    refine ⟨createStartedAt, rfl, not_le.mp fun late => short ⟨fresh, ?_, ?_⟩⟩
    · exact ⟨offers, inventory, offered.symm, listed.symm, admitted⟩
    · rw [← started]
      exact late

open Sample in
/-- Reads that outlast the sixty seconds of the sample's quote. -/
def slowReads : Reads Sample.digests where
  clock n := seconds 30 * n + seconds 1
  monotone := by
    intro m n le
    have le' : (m : Int) ≤ n := Int.ofNat_le.mpr le
    show seconds 30 * (m : Int) + seconds 1 ≤ seconds 30 * (n : Int) + seconds 1
    unfold seconds
    omega
  offers := .ok [offer]
  inventory := .ok []

open Sample in
/-- The activation of a fresh quote creates one second after the quote has expired. -/
theorem creates_after_expiry :
    quote.expiresAt < slowReads.clock 2 ∧
      ¬ Timely request quote quote.costCeilingUsd none slowReads := by
  have admitted : slowReads.Admit request quote quote.costCeilingUsd := by
    refine ⟨[offer], [], rfl, rfl, ?_, ?_, ?_, rfl⟩
    · decide +kernel
    · decide +kernel
    · have steady : ((currentQuote (d := digests) request [offer] (slowReads.clock 1)).bind
          fun current => validatePlannedQuoteDrift current quote quote.costCeilingUsd) =
            .ok () := by decide +kernel
      obtain ⟨current, is, same⟩ := except_bind_ok.mp steady
      exact ⟨current, is, same⟩
  have late : quote.expiresAt < slowReads.clock 2 := by decide +kernel
  exact ⟨late, admitted.late (le_of_lt late)⟩

end KestrelRunpod.Serverless
