import GatewayRegistrar.CommandLine.Invocation
import GatewayRegistrar.Config.Validation
import GatewayRegistrar.Proofs.Config.Spelling

/-!
# Intervals in seconds

The option for the pause is a number of seconds and is written as the text of an interval. That text is read as so many
seconds (`ofText?_seconds`), so the option sets the pause that it says (`pause?_applyTo`).
-/

namespace GatewayRegistrar

open CommandLine

namespace Interval

variable {n : Nat}

/-- **A number of seconds is read as so many seconds.** -/
theorem ofText?_seconds (h : n < bound) : ofText? (String.ofList (decimalText n ++ ['s'])) = some ⟨n * 1000⟩ := by
  obtain ⟨hnumeral, hfits⟩ := wholeBelow?_eq_some_iff_isNumeral.1 (wholeBelow?_decimalText h)
  rw [Nat.mul_comm, ofText?_eq_some_iff, String.toList_ofList]
  exact ⟨[], _, [], by simp, by simp, by simp, .seconds hnumeral (bound_eq ▸ hfits)⟩

/-! ## The option -/

/-- The option for the pause sets the pause that it says. -/
theorem pause?_applyTo {o : Options} (ho : o.sleep? = some n) (h : n < bound) (c : Config) :
    (o.applyTo c).polling.pause? = some ⟨n * 1000⟩ := by
  simp only [Options.applyTo, Polling.pause?, ho, Option.map_some, Option.getD_some, ofText?_seconds h]

end Interval
end GatewayRegistrar
