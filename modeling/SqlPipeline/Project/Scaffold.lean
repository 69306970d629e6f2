/-
  SqlPipeline/Project/Scaffold.lean
  =================================
  **The files of a new project.**

  A new project has settings, a file of variables and, unless it is to be empty, a seed and
  three models: a view on the seed, a table that grows, and a report.
-/
import SqlPipeline.FileTree
import SqlPipeline.Project.Load

namespace SqlPipeline.Scaffold

def ofLines (lines : List String) : String :=
  String.join (lines.map (· ++ "\n"))

def reference (call : String) : String :=
  "\x7b\x7b " ++ call ++ " \x7d\x7d"

def control (statement : String) : String :=
  "\x7b% " ++ statement ++ " %\x7d"

def settings (name : String) : String :=
  ofLines
    ["name: " ++ name,
      "version: \"1.0\"",
      "",
      "database:",
      "  path: warehouse.duckdb",
      "",
      "model-paths: [models]",
      "seed-paths: [seeds]",
      "",
      "vars:",
      "  start_date: \"2024-01-01\"",
      "",
      "targets:",
      "  dev:",
      "    database:",
      "      path: warehouse.duckdb",
      "  prod:",
      "    database:",
      "      path: $\x7bDAGSQL_PROD_DB:" ++ name ++ "_prod.duckdb\x7d"]

def ignored : String :=
  ofLines ["*.duckdb", "*.duckdb.wal", "__pycache__/", ".env", "compiled/"]

def variablesFile : String :=
  ofLines
    ["# Loaded into the environment before project.yml is read.",
      "# Reference values as $\x7bVAR\x7d or $\x7bVAR:default\x7d.",
      "# DAGSQL_PROD_DB=/data/prod.duckdb"]

/-! ### Samples -/

def seedSample : String :=
  ofLines
    ["id,customer,amount,ordered_at",
      "1,alice,120.00,2024-01-03",
      "2,bob,35.50,2024-01-04",
      "3,alice,80.25,2024-01-09",
      "4,carol,210.00,2024-01-12"]

def stagingSample : String :=
  ofLines
    ["-- config: materialized=view",
      "SELECT",
      "    id,",
      "    lower(customer) AS customer,",
      "    amount,",
      "    CAST(ordered_at AS DATE) AS ordered_at",
      "FROM " ++ reference "seed('raw_orders')",
      "WHERE ordered_at >= '" ++ reference "var('start_date')" ++ "'"]

def incrementalSample : String :=
  ofLines
    ["-- config: materialized=incremental, unique_key=id",
      "SELECT id, customer, amount, ordered_at",
      "FROM " ++ reference "ref('stg_orders')",
      control "if is_incremental()",
      "WHERE ordered_at >= (SELECT MAX(ordered_at) FROM " ++ reference "this()" ++ ")",
      control "endif"]

def reportSample : String :=
  ofLines
    ["SELECT",
      "    customer,",
      "    COUNT(*) AS orders,",
      "    SUM(amount) AS revenue",
      "FROM " ++ reference "ref('orders')",
      "GROUP BY customer"]

def samples : List (String × String) :=
  [("seeds/raw_orders.csv", seedSample), ("models/staging/stg_orders.sql", stagingSample),
    ("models/marts/orders.sql", incrementalSample), ("models/marts/customer_revenue.sql", reportSample)]

/-! ### A new project -/

def samplesFor (empty : Bool) : List (String × String) :=
  if empty then [] else samples

/-- The steps that make a project in a directory; a file of variables that is there stays. -/
def steps (directory : Path) (name : String) (empty : Bool) : List FileStep :=
  [.directory (directory.child "models"), .directory (directory.child "seeds"),
    .file (Project.fileIn directory) (settings name), .file (directory.child ".gitignore") ignored,
    .newFile (Environment.fileIn directory) variablesFile]
    ++ (samplesFor empty).flatMap fun (path, text) =>
      let path := directory.join (.ofText path)
      [.directory path.parent, .file path text]

def paths (empty : Bool) : List String :=
  [Project.fileName, ".gitignore", ".env"] ++ (samplesFor empty).map (·.1)

def isNameChar (c : Char) : Bool :=
  c.isAlphanum || c == '_' || c == '-'

/-- Whether a text is a name for a project; the end of a line may follow it. -/
def isName (s : String) : Bool :=
  let cs := s.toList
  let name := if cs.getLast? == some '\n' then cs.dropLast else cs
  !name.isEmpty && name.all isNameChar

end SqlPipeline.Scaffold
