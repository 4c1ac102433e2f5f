/-!
# Sanitized text

Metadata keys and values hold ASCII letters, digits and single hyphens. `sanitize` makes any text fit: every longest
run of other characters becomes one hyphen, and letters and digits stay where they are.
-/

namespace GatewayRegistrar

/-- Writes the text with one hyphen for each run of characters that are neither ASCII letters nor digits. The flag
says whether such a run is already open, in which case its hyphen has been written. -/
def hyphenateRuns : Bool → List Char → List Char
  | _, [] => []
  | inRun, c :: cs =>
    if c.isAlphanum then c :: hyphenateRuns false cs
    else if inRun then hyphenateRuns true cs
    else '-' :: hyphenateRuns true cs

/-- The text as it may stand in a metadata key or value. -/
def sanitize (s : String) : String :=
  String.ofList (hyphenateRuns false s.toList)

@[simp] theorem hyphenateRuns_nil (inRun : Bool) : hyphenateRuns inRun [] = [] := rfl

@[simp] theorem toList_sanitize (s : String) : (sanitize s).toList = hyphenateRuns false s.toList := by
  simp [sanitize]

end GatewayRegistrar
