-- SUMMARY: The records that are in the results of readings, up to the first that closes the source.
import Flowmeter.Intake.Loop

/-!
# Records of a source
-/

namespace Flowmeter.Intake

/-- The records in the results of readings, as far as the source is open. -/
def recordsOf : List (Except ReadError Bytes) → List RawRecord
  | [] => []
  | result :: later =>
    match receive result with
    | .closed => []
    | .failed _ | .malformed _ => recordsOf later
    | .record r => r :: recordsOf later

/-- No result says that the source is closed. -/
def IsOpen (results : List (Except ReadError Bytes)) : Prop :=
  ∀ result ∈ results, receive result ≠ .closed

variable {results later : List (Except ReadError Bytes)}

theorem isOpen_snoc {result : Except ReadError Bytes} (h : IsOpen results)
    (hresult : receive result ≠ .closed) : IsOpen (results ++ [result]) := by
  intro x hx
  rcases List.mem_append.1 hx with hx | hx
  · exact h x hx
  · obtain rfl := List.mem_singleton.1 hx
    exact hresult

theorem recordsOf_append (h : IsOpen results) :
    recordsOf (results ++ later) = recordsOf results ++ recordsOf later := by
  induction results with
  | nil => rfl
  | cons result results ih =>
    have hresult := h result List.mem_cons_self
    have hrest := ih fun x hx => h x (List.mem_cons_of_mem _ hx)
    simp only [List.cons_append, recordsOf]
    cases hreceive : receive result with
    | closed => exact absurd hreceive hresult
    | failed warning => exact hrest
    | malformed warning => exact hrest
    | record r => simp only [hrest, List.cons_append]

/-- What comes behind the end of the source is never read. -/
theorem recordsOf_append_of_not_isOpen (h : ¬ IsOpen results) :
    recordsOf (results ++ later) = recordsOf results := by
  induction results with
  | nil => exact absurd (fun _ hx => absurd hx List.not_mem_nil) h
  | cons result results ih =>
    simp only [List.cons_append, recordsOf]
    have hrest : receive result ≠ .closed →
        recordsOf (results ++ later) = recordsOf results := by
      intro hresult
      refine ih fun hopen => h fun x hx => ?_
      rcases List.mem_cons.1 hx with rfl | hx
      · exact hresult
      · exact hopen x hx
    cases hreceive : receive result with
    | closed => rfl
    | failed warning => exact hrest (by rw [hreceive]; nofun)
    | malformed warning => exact hrest (by rw [hreceive]; nofun)
    | record r => simp only [hrest (by rw [hreceive]; nofun)]

end Flowmeter.Intake
