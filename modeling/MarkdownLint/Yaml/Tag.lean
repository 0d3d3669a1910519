/-!
# Tags

A tag says what a node denotes.  Two tags of keys have a meaning of their own: `merge` takes other
mappings in, and under `defaultValue` a mapping holds what it stands for as a scalar.
-/

namespace MarkdownLint.Yaml

inductive Tag
  | text
  | integer
  | float
  | truth
  | null
  | timestamp
  | binary
  | sequence
  | mapping
  | set
  | orderedMapping
  | pairs
  | merge
  | defaultValue
  | unknown
  deriving DecidableEq

namespace Tag

def ofUri (uri : String) : Tag :=
  match uri with
  | "tag:yaml.org,2002:str" => text
  | "tag:yaml.org,2002:int" => integer
  | "tag:yaml.org,2002:float" => float
  | "tag:yaml.org,2002:bool" => truth
  | "tag:yaml.org,2002:null" => null
  | "tag:yaml.org,2002:timestamp" => timestamp
  | "tag:yaml.org,2002:binary" => binary
  | "tag:yaml.org,2002:seq" => sequence
  | "tag:yaml.org,2002:map" => mapping
  | "tag:yaml.org,2002:set" => set
  | "tag:yaml.org,2002:omap" => orderedMapping
  | "tag:yaml.org,2002:pairs" => pairs
  | "tag:yaml.org,2002:merge" => merge
  | "tag:yaml.org,2002:value" => defaultValue
  | _ => unknown

end Tag

/-- A tag as it is given to a node.  The exclamation mark alone asks for the tag of a collection, or
for the one that the text of a scalar decides. -/
inductive GivenTag
  | byContent
  | tag (t : Tag)
  deriving DecidableEq

end MarkdownLint.Yaml
