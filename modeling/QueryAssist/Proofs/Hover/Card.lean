import QueryAssist.Hover.Card

/-!
# What the card of a table shows

The card of a table is its heading, its description, its resource types and the examples that it is
given, in this order. What there is none of leaves no trace, so a card shows no queries but the
given ones, and each of them as often as it is given.

## Main definitions

* `Card.exampleText` — how examples are written
* `Card.IsTypeText` — how resource types are written, the first ten of them
* `Card.typesOf` — the resource types of a table
* `Card.IsTableCard` — a card of a table with given examples

## Main results

* `sections_cons` — every section but the first stands below an empty line
* `isTableCard_ofTable` — a card shows its table with the examples that it is given
-/

namespace QueryAssist.Hover.Card

open Catalog (Table)

/-! ### The parts of a card -/

/-- Examples as they are written: below a title one block of code for each, in order. -/
def exampleText (codes : List String) : String :=
  if codes = [] then ""
  else "\n\n**Examples**" ++ String.join (codes.map fun code => "\n\n```kusto\n" ++ code ++ "\n```")

/-- Resource types as they are written: below a title one line for each. -/
def typeLines (ids : List String) : String :=
  "\n\n**Resource types**\n" ++ String.join (ids.map fun id => "\n- `" ++ id ++ "`")

/-- A text lists resource types. Those behind the tenth are only counted. -/
inductive IsTypeText : (ids : List String) → (text : String) → Prop
  | nil : IsTypeText [] ""
  | all {ids : List String} (hne : ids ≠ []) (hle : ids.length ≤ 10) :
      IsTypeText ids (typeLines ids)
  | cut {shown rest : List String} (hshown : shown.length = 10) (hrest : rest ≠ []) :
      IsTypeText (shown ++ rest)
        (typeLines shown ++ ("\n- ...and " ++ Decimal.digitText rest.length ++ " more"))

/-- The resource types of a table: those that it names, or else those that the catalog stores in
it. -/
def typesOf (c : Catalog) (t : Table) : List String :=
  if t.resourceTypes = [] then (c.resourceTypesOf t.name).map (·.1) else t.resourceTypes

/-- A card of the table `t` with the examples `codes`: the heading, then the description and the
resource types of the table, if there are any, and then the examples and nothing else. -/
def IsTableCard (c : Catalog) (t : Table) (codes : List String) (card : String) : Prop :=
  ∃ types, IsTypeText (typesOf c t) types ∧
    card = "### " ++ t.name ++ "\n\n*Table*" ++
      (if t.description = "" then "" else "\n\n" ++ t.description) ++ types ++ exampleText codes

variable {ids shown rest : List String}

/-! ### Sections -/

/-- Every section but the first stands below an empty line. -/
theorem sections_cons (part : String) (parts : List String) :
    sections (part :: parts) = part ++ String.join (parts.map ("\n\n" ++ ·)) := by
  induction parts generalizing part with
  | nil => simp [sections]
  | cons next parts ih =>
    have hnext : "\n\n".intercalate (next :: parts) =
        next ++ String.join (parts.map ("\n\n" ++ ·)) := ih next
    rw [sections, String.intercalate_cons_cons, hnext, List.map_cons, String.join_cons]
    simp only [String.append_assoc]

theorem join_singleton (text : String) :
    String.join ([text].map ("\n\n" ++ ·)) = "\n\n" ++ text := by
  rw [List.map_singleton, String.join_cons, String.join_nil, String.append_empty]

/-- Examples without descriptions are blocks of code. -/
theorem flatMap_codeBlock (codes : List String) :
    ((codes.map fun code => (⟨code, none⟩ : Catalog.Example)).flatMap fun e =>
      e.description.toList ++ [codeBlock e.code]) = codes.map codeBlock := by
  rw [List.flatMap_map, List.map_eq_flatMap]
  rfl

/-- The examples are a section of their own, if there are any. -/
theorem join_exampleSection (codes : List String) :
    String.join ((exampleSection (codes.map fun code => ⟨code, none⟩)).map ("\n\n" ++ ·)) =
      exampleText codes := by
  cases codes with
  | nil => rfl
  | cons code codes =>
    have hsection : exampleSection ((code :: codes).map fun code => ⟨code, none⟩) =
        [sections ("**Examples**" :: (code :: codes).map codeBlock)] :=
      congrArg (fun blocks => [sections ("**Examples**" :: blocks)])
        (flatMap_codeBlock (code :: codes))
    have hblock : ("\n\n" ++ ·) ∘ codeBlock = fun code => "\n\n```kusto\n" ++ code ++ "\n```" := by
      funext code
      rw [Function.comp_apply, codeBlock, ← String.append_assoc, ← String.append_assoc]
      rfl
    have htitle : "\n\n" ++ "**Examples**" = "\n\n**Examples**" := by simp
    rw [hsection, join_singleton, sections_cons, List.map_map, hblock, ← String.append_assoc,
      htitle, exampleText, if_neg (List.cons_ne_nil code codes)]

/-! ### Resource types -/

theorem resourceTypeSection_of_le (hne : ids ≠ []) (hle : ids.length ≤ 10) :
    resourceTypeSection ids =
      ["**Resource types**\n" ++ String.join (ids.map fun id => "\n- `" ++ id ++ "`")] := by
  have hempty : ¬ ids.isEmpty = true := by simpa using hne
  have hmore : ids.length - maxResourceTypes = 0 := Nat.sub_eq_zero_of_le hle
  have htake : ids.take maxResourceTypes = ids := List.take_of_length_le hle
  simp only [resourceTypeSection, hempty, hmore, htake, if_true, String.append_empty]
  rfl

theorem resourceTypeSection_append (hshown : shown.length = 10) (hrest : rest ≠ []) :
    resourceTypeSection (shown ++ rest) =
      ["**Resource types**\n" ++ String.join (shown.map fun id => "\n- `" ++ id ++ "`") ++
        ("\n- ...and " ++ Decimal.digitText rest.length ++ " more")] := by
  have hempty : ¬ (shown ++ rest).isEmpty = true := by simp [hrest]
  have hmore : (shown ++ rest).length - maxResourceTypes = rest.length := by
    rw [List.length_append, hshown, maxResourceTypes, Nat.add_sub_cancel_left]
  have htake : (shown ++ rest).take maxResourceTypes = shown := List.take_left' hshown
  have hlength : rest.length ≠ 0 := by simpa using hrest
  simp only [resourceTypeSection, hempty, hmore, htake, hlength]
  rfl

/-- The title of the resource types stands below an empty line. -/
theorem below_title (ids : List String) :
    "\n\n" ++ ("**Resource types**\n" ++ String.join (ids.map fun id => "\n- `" ++ id ++ "`")) =
      typeLines ids := by
  have htitle : "\n\n" ++ "**Resource types**\n" = "\n\n**Resource types**\n" := by simp
  rw [← String.append_assoc]
  exact congrArg (· ++ _) htitle

/-- The resource types are a section of their own, if there are any. -/
theorem isTypeText_resourceTypeSection (ids : List String) :
    IsTypeText ids (String.join ((resourceTypeSection ids).map ("\n\n" ++ ·))) := by
  by_cases hne : ids = []
  · rw [hne]
    exact .nil
  by_cases hle : ids.length ≤ 10
  · rw [resourceTypeSection_of_le hne hle, join_singleton, below_title]
    exact .all hne hle
  · have hshown : (ids.take 10).length = 10 := List.length_take_of_le (Nat.le_of_not_le hle)
    have hrest : ids.drop 10 ≠ [] := by simpa using hle
    rw [← List.take_append_drop 10 ids, resourceTypeSection_append hshown hrest, join_singleton,
      ← String.append_assoc, below_title]
    exact .cut hshown hrest

/-! ### The card -/

/-- The description is a section of its own, if there is one. -/
theorem join_description (text : String) :
    String.join ((if text = "" then [] else [text]).map ("\n\n" ++ ·)) =
      if text = "" then "" else "\n\n" ++ text := by
  split
  · rfl
  · exact join_singleton text

theorem heading_table (name : String) :
    heading name "Table" "" = "### " ++ name ++ "\n\n*Table*" := by
  simp [heading, String.append_assoc]

/-- The card of a table shows it with exactly the examples that it is given. -/
theorem isTableCard_ofTable (c : Catalog) (t : Table) (codes : List String) :
    IsTableCard c t codes (ofTable c t codes) := by
  refine ⟨_, isTypeText_resourceTypeSection (typesOf c t), ?_⟩
  have hsections : ofTable c t codes = sections (heading t.name "Table" "" ::
      ((if t.description = "" then [] else [t.description]) ++ resourceTypeSection (typesOf c t) ++
        exampleSection (codes.map fun code => ⟨code, none⟩))) := by
    simp only [ofTable, typesOf, List.isEmpty_iff, List.cons_append, List.append_assoc,
      List.nil_append]
  rw [hsections, sections_cons, heading_table, List.map_append, List.map_append,
    String.join_append, String.join_append, join_description, join_exampleSection]
  simp only [String.append_assoc]

example :
    ofTable ∅ { name := "Logs", description := "Lines." } ["Logs", "Logs | take 1"] =
      "### Logs\n\n*Table*\n\nLines.\n\n**Examples**\n\n```kusto\nLogs\n```\n\n" ++
        "```kusto\nLogs | take 1\n```" := by
  decide +kernel

end QueryAssist.Hover.Card
