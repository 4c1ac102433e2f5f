import GatewayRegistrar.Unicode.Category
import GatewayRegistrar.Unicode.Property

/-!
# Contributory properties

Some properties hold of all characters of certain categories, and of further characters that are listed one by one.
Such a list is a property as well; its name begins with `Other`.
-/

namespace GatewayRegistrar.Unicode

/-- The characters with the property `name` that are of none of the given categories. -/
def beyond (name : String) (categories : List String) : CodeSet :=
  (property name).diff (categories.foldl (fun s c => s.union (category c)) .empty)

/-- The characters that are listed under the given full name. -/
def contribution? : String → Option CodeSet
  | "Other_Alphabetic" => some (beyond "Alphabetic" ["L", "Nl"])
  | "Other_Default_Ignorable_Code_Point" =>
    some ((beyond "Default_Ignorable_Code_Point" ["Cf"]).diff (property "Variation_Selector"))
  | "Other_Grapheme_Extend" => some (beyond "Grapheme_Extend" ["Me", "Mn"])
  | "Other_ID_Continue" => some ((beyond "ID_Continue" ["M", "Nd", "Pc"]).diff (property "ID_Start"))
  | "Other_ID_Start" => some (beyond "ID_Start" ["L", "Nl"])
  | "Other_Lowercase" => some (beyond "Lowercase" ["Ll"])
  | "Other_Math" => some (beyond "Math" ["Sm"])
  | "Other_Uppercase" => some (beyond "Uppercase" ["Lu"])
  | _ => none

end GatewayRegistrar.Unicode
