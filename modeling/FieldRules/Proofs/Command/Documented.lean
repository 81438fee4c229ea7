import FieldRules.Command.Run
import FieldRules.Proofs.Options.Documented
import Mathlib.Data.List.TakeDrop
import Mathlib.Data.List.TakeWhile

/-!
# Proofs — Documented

What is documented of what a command runs on (`Host.IsDocumented`), and that the host the program
runs on does it (`Host.standard_isDocumented`). How a command ends is proved of any such host.
-/

namespace FieldRules.Command

/-! ## Depth -/

/-- Signs that may open a level of a document, or of a pattern in it: brackets, the signs of YAML
for items, keys and values, and the sign of an escape, which may stand for any other. -/
def isOpening (c : Char) : Bool := "[\x7b(-?:\\".toList.contains c

/-- Some document of the task has more signs than `levels` that may open a level. -/
def NestsBeyond (levels : Nat) (store : Document.Store) (task : Task) : Prop :=
  ∃ path ∈ task.paths, ∃ text, store.files (Document.normalPath path) = .contents text ∧
    levels < text.toList.countP isOpening

/-! ## Documented behaviour -/

/-- What is documented of a host. As many `levels` as are given can always be gone through. -/
structure Host.IsDocumented (host : Host) (levels : Nat) : Prop where
  library : host.deployment.library.IsDocumented
  /-- Every encoding has the characters of ASCII. -/
  refuses_ascii : ∀ text : String, (∀ c ∈ text.toList, c.toNat < 128) → host.refuses text = none
  /-- Other libraries log nothing that is weightier than a debug event. -/
  others : ∀ json threshold task, weight .debug < threshold → host.others json threshold task = []
  /-- Only what is nested deeply is nested too deeply. -/
  exhausts : ∀ task, host.exhausts task = true → NestsBeyond levels host.documents task

/-- **The host of the program does what is documented.** -/
theorem Host.standard_isDocumented (environment : Environment) (files : Document.Files)
    (levels : Nat) : (Host.standard environment files).IsDocumented levels where
  library := Library.standard_isDocumented
  refuses_ascii text h := by
    have hplain : ∀ c ∈ text.toList, (!isStandIn c) = true := by
      intro c hc
      have hsmall := h c hc
      simp only [isStandIn, Bool.not_eq_true', Bool.and_eq_false_iff, decide_eq_false_iff_not]
      omega
    have hspan : text.toList.span (fun c => !isStandIn c) = (text.toList, []) := by
      rw [List.span_eq_takeWhile_dropWhile, List.takeWhile_eq_self_iff.mpr hplain,
        List.dropWhile_eq_nil_iff.mpr hplain]
    simp only [standard, encodingFlaw?, hspan]
  others _ _ _ _ := rfl
  exhausts _ h := by cases h

/-! ## Words of the host -/

/-- The host gives this reason: for a document that cannot be read, or a text that cannot be
printed. -/
inductive Host.Says (host : Host) : String → Prop
  | file {path message : String} :
      host.documents.files path = .unreadable message → Says host message
  | yaml {text message : String} :
      host.documents.yaml text = .error (.worded message) → Says host message
  | printing {text message : String} : host.refuses text = some message → Says host message

end FieldRules.Command
