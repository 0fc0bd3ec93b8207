import QueryAssist.Json.Decoder

/-!
# Settings

What can be tuned about the assistance.

## Main definitions

* `Settings` — the settings, with their defaults
* `Settings.ofDocument` — the settings in a JSON document
-/

namespace QueryAssist

/-- The columns that most tables have. -/
def commonProperties : List String :=
  ["id", "name", "type", "tenantId", "kind", "location", "resourceGroup", "subscriptionId",
   "managedBy", "sku", "plan", "properties", "tags", "identity", "zones", "extendedLocation"]

/-- The settings. -/
structure Settings where
  /-- The number of examples of a table on its card. -/
  hoverExampleCount : Nat := 2
  /-- The largest number of spelling suggestions for a name. -/
  maxSuggestions : Nat := 3
  /-- The similarity above which a name that begins with another letter is suggested. -/
  similarityThreshold : Float := 0.6
  /-- The properties offered as completions. -/
  properties : List String := commonProperties
  /-- Whether pipes in the middle of a line are pointed out. -/
  pipeStyleHints : Bool := true

namespace Settings

instance : Inhabited Settings := ⟨{}⟩

/-- Reads settings; what is absent keeps its default. -/
def decoder : Json.Decoder Settings :=
  .record
    [.default "hoverExampleCount" .natural fun s v => { s with hoverExampleCount := v },
     .default "maxSuggestions" .natural fun s v => { s with maxSuggestions := v },
     .default "similarityThreshold" .float fun s v => { s with similarityThreshold := v },
     .default "properties" (.list .text) fun s v => { s with properties := v },
     .default "pipeStyleHints" .boolean fun s v => { s with pipeStyleHints := v }]
    {}

/-- The settings in a document. -/
def ofDocument (document : String) : Except Json.Fault Settings := decoder.decode document

end Settings

end QueryAssist
