import Mathlib.Data.List.Nodup
import SecureExchange.Failure.Graph

/-!
# Errors for received conditions

A peer may send any text as a condition. The codes of the table are pairwise different
(`code_injective`), so a condition names at most one kind, and what its error is depends on that
kind alone: a kind of the protocol family answers for its own code, and every other text, be it the
code of another family, is kept as an unknown condition (`Names`).
-/

namespace SecureExchange.Failure

namespace Kind

theorem nodup_codes : (all.map code).Nodup := by
  simp [all, code, entry]

theorem code_injective : Function.Injective code := by
  intro k k' h
  exact List.inj_on_of_nodup_map nodup_codes k.mem_all k'.mem_all h

theorem ofCode?_code (k : Kind) : ofCode? k.code = some k := by
  have hfound : (ofCode? k.code).isSome = true := by
    rw [ofCode?, List.find?_isSome]
    exact ⟨k, k.mem_all, beq_self_eq_true k.code⟩
  obtain ⟨k', hk'⟩ := Option.isSome_iff_exists.mp hfound
  rw [hk', code_injective (code_eq_of_ofCode? hk')]

theorem ofCode?_eq_some_iff {c : String} {k : Kind} : ofCode? c = some k ↔ k.code = c := by
  constructor
  · exact code_eq_of_ofCode?
  · rintro rfl
    exact k.ofCode?_code

/-- The four conditions that are presumed transient. -/
def transientCodes : List String :=
  ["amqp:internal-error", "amqp:resource-limit-exceeded", "amqp:connection:forced",
   "amqp:link:detach-forced"]

def transientKinds : List Kind :=
  [.amqpInternalError, .amqpResourceLimitExceeded, .amqpConnectionForced, .amqpLinkDetachForced]

theorem map_code_transientKinds : transientKinds.map code = transientCodes := rfl

theorem mem_transientKinds_iff (k : Kind) :
    k ∈ transientKinds ↔ k.family = .protocol ∧ k.retryable = true := by
  cases k <;> decide

theorem code_mem_transientCodes (k : Kind) :
    k.code ∈ transientCodes ↔ k.family = .protocol ∧ k.retryable = true := by
  rw [← map_code_transientKinds, List.mem_map_of_injective code_injective, mem_transientKinds_iff]

/-- The kind of the protocol family that a condition names. -/
def Names (c : String) (k : Kind) : Prop := k.code = c ∧ k.family = .protocol

theorem Names.unique {c : String} {k k' : Kind} (h : Names c k) (h' : k'.code = c) : k' = k :=
  code_injective (h'.trans h.1.symm)

end Kind

namespace Classified

open Kind

variable {c : String} {k : Kind} {message : Option String} {w : Option Wrapping}

theorem ofAmqp_of_names (h : Names c k) (message : Option String) (w : Option Wrapping) :
    ofAmqp (some c) message w =
      make (if k = .amqpFramingError then .amqpFraming else .protocol) k message w none [] := by
  obtain ⟨hcode, hfamily⟩ := h
  simp [ofAmqp, ofCode?_eq_some_iff.mpr hcode, hfamily]

theorem ofAmqp_of_unnamed (h : ∀ k, ¬ Names c k) (message : Option String)
    (w : Option Wrapping) : ofAmqp (some c) message w = ofCondition (some c) message w [] := by
  cases hk : ofCode? c with
  | none => simp [ofAmqp, hk]
  | some k =>
      have hfamily : k.family ≠ .protocol := fun hfamily ↦
        h k ⟨ofCode?_eq_some_iff.mp hk, hfamily⟩
      simp [ofAmqp, hk, hfamily]

def framingCondition : String := "amqp:connection:framing-error"

/-- What the error for a condition is. -/
structure Answers (c : String) (message : Option String) (w : Option Wrapping) (e : Classified) :
    Prop where
  code : e.code = some c
  reported : OrderedMap.get? "code" e.report = some (.text c)
  wrapped : e.wrapped = w.map (·.id)
  given : ∀ m, message = some m → e.message = m
  alone : message = none → w = none → e.message = c
  wrapping : message = none → ∀ v, w = some v → e.message = c ++ ": " ++ v.text
  unknown : e.cls = .unknownCondition ↔ ∀ k, ¬ Names c k
  otherFamily : ∀ k : Kind, k.code = c → k.family ≠ .protocol → e.cls = .unknownCondition
  kept : e.cls = .unknownCondition → e.kind = .protocol ∧ e.details = [("condition", .text c)]
  named : ∀ k, Names c k → e.kind = k
  framing : e.cls = .amqpFraming ↔ c = framingCondition
  plain : e.cls = .protocol ↔ (∃ k, Names c k) ∧ c ≠ framingCondition
  transient : e.retryable = true ↔ c ∈ transientCodes

theorem get?_code_report {e : Classified} (h : e.code = some c) :
    OrderedMap.get? "code" e.report = some (.text c) := by
  simp [report, h, OrderedMap.get?, Datum.ofText?]

theorem answers_of_names (h : Names c k) (message : Option String) (w : Option Wrapping) :
    Answers c message w (ofAmqp (some c) message w) := by
  rw [ofAmqp_of_names h]
  have hcode : k.code = c := h.1
  have hframing : k = .amqpFramingError ↔ c = framingCondition := by
    rw [← hcode]
    exact code_injective.eq_iff.symm
  have hnamed : ¬ ∀ k, ¬ Names c k := fun hnone ↦ hnone k h
  have hcls (cls : ErrorClass) :
      (if k = .amqpFramingError then ErrorClass.amqpFraming else .protocol) = cls ↔
        cls = .amqpFraming ∧ c = framingCondition ∨ cls = .protocol ∧ c ≠ framingCondition := by
    by_cases hk : k = .amqpFramingError
    · simp [hk, hframing.mp hk, eq_comm]
    · simp [hk, hframing.not.mp hk, eq_comm]
  refine {
    code := by rw [code_make, hcode]
    reported := get?_code_report (by rw [code_make, hcode])
    wrapped := rfl
    given := by
      rintro m rfl
      rfl
    alone := by
      rintro rfl rfl
      exact hcode
    wrapping := by
      rintro rfl v rfl
      simp [make, defaultMessage, hcode]
    unknown := by simp [make, hcls, hnamed]
    otherFamily := fun k' hcode' hfamily ↦ absurd (h.unique hcode' ▸ h.2) hfamily
    kept := by simp [make, hcls]
    named := fun k' h' ↦ (h.unique h'.1).symm
    framing := by simp [make, hcls]
    plain := by simp [make, hcls, show ∃ k, Names c k from ⟨k, h⟩]
    transient := ?_ }
  rw [← hcode, code_mem_transientCodes]
  simp [make, h.2]

theorem framingCondition_named : Names framingCondition .amqpFramingError := ⟨rfl, rfl⟩

theorem not_mem_transientCodes (h : ∀ k, ¬ Names c k) : c ∉ transientCodes := by
  rw [← map_code_transientKinds]
  intro hmem
  obtain ⟨k, hk, hcode⟩ := List.mem_map.mp hmem
  exact h k ⟨hcode, ((mem_transientKinds_iff k).mp hk).1⟩

theorem answers_of_unnamed (h : ∀ k, ¬ Names c k) (message : Option String)
    (w : Option Wrapping) : Answers c message w (ofAmqp (some c) message w) := by
  rw [ofAmqp_of_unnamed h]
  have hframing : c ≠ framingCondition := by
    rintro rfl
    exact h _ framingCondition_named
  exact {
    code := rfl
    reported := get?_code_report rfl
    wrapped := rfl
    given := by
      rintro m rfl
      rfl
    alone := by
      rintro rfl rfl
      rfl
    wrapping := by
      rintro rfl v rfl
      rfl
    unknown := by simp [ofCondition, h]
    otherFamily := fun _ _ _ ↦ rfl
    kept := fun _ ↦ ⟨rfl, rfl⟩
    named := fun k hk ↦ absurd hk (h k)
    framing := by simp [ofCondition, hframing]
    plain := by simp [ofCondition, h]
    transient := by simp [ofCondition, Kind.retryable, Kind.entry, not_mem_transientCodes h] }

/-- Any condition is answered by an error that reports it as it was received and wraps what it is
given, as its declared cause as well. Class, kind and retry decision are those of the kind of the
protocol family with that code, and without one the condition is kept as an unknown one. -/
theorem received_conditions_answered (g : Graph) (c : String) (message : Option String)
    (cause handling : Option FailureId) :
    Answers c message (cause.map g.wrapping)
      (ofAmqp (some c) message (cause.map g.wrapping)) ∧
    (ofAmqp (some c) message (cause.map g.wrapping)).wrapped = cause ∧
    g.record (.classified (ofAmqp (some c) message (cause.map g.wrapping))) handling
      = (g.length, g ++ [⟨.classified (ofAmqp (some c) message (cause.map g.wrapping)), cause,
          handling⟩]) := by
  have hanswers : Answers c message (cause.map g.wrapping)
      (ofAmqp (some c) message (cause.map g.wrapping)) := by
    by_cases hnamed : ∃ k, Names c k
    · obtain ⟨k, hk⟩ := hnamed
      exact answers_of_names hk ..
    · exact answers_of_unnamed (not_exists.mp hnamed) ..
  have hwrapped : (ofAmqp (some c) message (cause.map g.wrapping)).wrapped = cause := by
    rw [hanswers.wrapped, Option.map_map]
    exact Option.map_id_apply ..
  exact ⟨hanswers, hwrapped, by simp only [Graph.record, hwrapped]⟩

end Classified

end SecureExchange.Failure
