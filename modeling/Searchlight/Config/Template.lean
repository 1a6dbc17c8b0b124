import Searchlight.Text.Lines

/-!
# New configuration files

A new configuration file shows the settings there are. Everything in it is commented out, so that it
changes nothing until a line is uncommented.
-/

namespace Searchlight

namespace Config

/-- A configuration of a project that uses every setting. -/
def projectExample : String := "# ftq project configuration.
#
# Queries are rewritten against the index and field mappings below. Fields can be
# declared here, loaded from an Elasticsearch-style JSON mapping, or both; tables
# here win over the mapping file.

# Stop looking for .ftq.toml files in parent directories and ~/.ftq.toml.
root = false

[index]
name = \"db.schema.table.index\"

# Unscoped terms (\"rust\" rather than \"title:rust\") match this field.
default_field = \"body\"

# Wrap every rewritten query as a non-scoring base filter.
as_filter = false

# Elasticsearch-style mapping document, relative to this file.
mapping = \"./mapping.json\"

[fields.title]
type = \"text\"
analyzer = \"standard\"
aliases = \"heading\"

[fields.body]
type = \"text\"

[fields.status]
type = \"keyword\"

[fields.published]
type = \"date\"

[fields.price]
type = \"double\"

[fields.\"comments.body\"]
type = \"text\"
nested = \"comments\"
"

/-- A configuration for the home directory. -/
def homeExample : String := "# ftq global configuration (~/.ftq.toml).
#
# Settings here apply wherever no project .ftq.toml overrides them.

[index]
default_field = \"body\"

[fields.body]
type = \"text\"
analyzer = \"standard\"
"

/-- Comments out a line, unless it is empty or a comment already. -/
def commentOut (line : List Char) : List Char :=
  match line with
  | [] | '#' :: _ => line
  | _ => '#' :: ' ' :: line

def commentedOut (text : String) : String :=
  String.ofList ((Text.lines text.toList).flatMap fun line => commentOut line ++ ['\n'])

def projectTemplate : String := commentedOut projectExample

def homeTemplate : String := commentedOut homeExample

end Config

end Searchlight
