/-! # The manual

    The long form of help: one section for every family of commands, and a
    summary of pipelines. -/

namespace Dossier.Manual

/-- The section on rings. -/
def rings : List String :=
  ["Rings are investigation contexts. Everything else lives inside one.",
    "  r                  list rings; * marks the selected ring",
    "  ra <name> [note]   create a ring",
    "  rs <id>            select a ring (clears the subject selection)",
    "  rn <id> <note>     replace a ring's note",
    "  rd <ids>           delete rings and everything in them, e.g. rd 2,4-6"]

/-- The section on subjects. -/
def subjects : List String :=
  ["Subjects are people of interest in the selected ring.",
    "  s                       list subjects",
    "  sa <codename> [note]    create a subject",
    "  ss <id>                 select a subject",
    "  sv [ids]                view subjects with their information, one block each",
    "  sd <ids>                delete subjects with their information"]

/-- The section on information entries. -/
def information : List String :=
  ["Information entries belong to the selected subject.",
    "  i                    list information",
    "  ia <name> <value>    add a text entry",
    "  iab <name> <path>    add a binary entry from a file",
    "  iac <name> <ids>     add a composite of other entries",
    "  ie <id>              edit a text entry in the external editor",
    "  id <ids>             delete entries"]

/-- The section on locations. -/
def locations : List String :=
  ["Locations are named coordinates in the selected ring.",
    "  l                              list locations",
    "  la <lat> <lon> <name> [note]   add a location",
    "  ld <ids>                       delete locations"]

/-- The section on time entries. -/
def times : List String :=
  ["Time entries are dates or date-times in the selected ring.",
    "  t                     list time entries in chronological order",
    "  ta <moment> [note]    add an entry; moment is YYYY-MM-DD or YYYY-MM-DDTHH:MM[:SS]",
    "  td <ids>              delete entries"]

/-- The section on associations. -/
def associations : List String :=
  ["Associations link subjects, information, locations and times.",
    "  a                           list associations, one block each, highest level first",
    "  aa <level> <description>    create an association",
    "  aas <assoc> <ids>           link subjects",
    "  aai <assoc> <ids>           link information entries",
    "  aal <assoc> <ids>           link locations",
    "  aat <assoc> <ids>           link time entries",
    "  ad <ids>                    delete associations",
    "Block headers always survive filters; a block is shown only if one of its",
    "lines matches."]

/-- The section on the commands that keep nothing. -/
def system : List String :=
  ["System commands.",
    "  help     list every command",
    "  debug    toggle printing of full failure traces",
    "  q        leave dossier"]

/-- How lines are filtered, paged and explained. -/
def pipelines : List String :=
  ["Pipelines:",
    "  <command> ~text      keep lines containing text",
    "  <command> ~~regex    keep lines matching a regular expression",
    "  <command> $L         show the output in the pager",
    "  <prefix>?            list commands one level below prefix (+ marks more below)",
    "  <command>??          same, plus the command's documentation"]

/-- The section of a tag. -/
def section? : String → Option (List String)
  | "rings" => some rings
  | "subjects" => some subjects
  | "information" => some information
  | "locations" => some locations
  | "times" => some times
  | "associations" => some associations
  | "system" => some system
  | _ => none

end Dossier.Manual
