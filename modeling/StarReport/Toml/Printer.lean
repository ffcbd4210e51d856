import StarReport.Json.Printer
import StarReport.Document.Basic

/-!
Schema documents as TOML texts: one line for each field of the document, and inline tables for the
entries below. A missing primary key is left out.
-/

set_option autoImplicit false
set_option relaxedAutoImplicit false

namespace StarReport.Toml

open Json (hexDigit separated)

def escape (c : Char) : List Char :=
  if c = '"' then ['\\', '"']
  else if c = '\\' then ['\\', '\\']
  else if c = '\n' then ['\\', 'n']
  else if c = '\r' then ['\\', 'r']
  else if c = '\t' then ['\\', 't']
  else if c.toNat < 32 ∨ c.toNat = 127 then
    ['\\', 'u', '0', '0', hexDigit (c.toNat / 16), hexDigit (c.toNat % 16)]
  else [c]

def quoted (text : String) : List Char :=
  '"' :: (text.toList.flatMap escape ++ ['"'])

def pair (key : String) (value : List Char) : List Char :=
  key.toList ++ " = ".toList ++ value

def array (items : List (List Char)) : List Char :=
  '[' :: (separated ", ".toList items ++ [']'])

def inlineRecord (pairs : List (List Char)) : List Char :=
  '{' :: ' ' :: (separated ", ".toList pairs ++ [' ', '}'])

end StarReport.Toml

namespace StarReport.Document

open Toml (quoted pair array inlineRecord)

def ForeignKeyEntry.toml (entry : ForeignKeyEntry) : List Char :=
  inlineRecord [pair "column" (quoted entry.column), pair "target" (quoted entry.target)]

def TableEntry.toml (entry : TableEntry) : List Char :=
  inlineRecord (pair "name" (quoted entry.name) ::
    ((entry.primaryKey.toList.map fun key => pair "primary_key" (quoted key)) ++
      [pair "foreign_keys" (array (entry.foreignKeys.map ForeignKeyEntry.toml))]))

def DimensionEntry.toml (entry : DimensionEntry) : List Char :=
  inlineRecord [pair "name" (quoted entry.name), pair "table" (quoted entry.table),
    pair "column" (quoted entry.column)]

def MetricEntry.toml (entry : MetricEntry) : List Char :=
  inlineRecord [pair "table" (quoted entry.table), pair "column" (quoted entry.column)]

def MeasureEntry.toml (entry : MeasureEntry) : List Char :=
  inlineRecord [pair "name" (quoted entry.name), pair "function" (quoted entry.function.text),
    pair "table" (quoted entry.table), pair "column" (quoted entry.column)]

def StarEntry.toml (entry : StarEntry) : List Char :=
  inlineRecord [pair "fact" (quoted entry.fact),
    pair "dimensions" (array (entry.dimensions.map DimensionEntry.toml)),
    pair "metrics" (array (entry.metrics.map MetricEntry.toml)),
    pair "measures" (array (entry.measures.map MeasureEntry.toml))]

def toml (document : Document) : String :=
  String.ofList (pair "database" (quoted document.database) ++ '\n' ::
    (pair "tables" (array (document.tables.map TableEntry.toml)) ++ '\n' ::
      (pair "star" document.star.toml ++ ['\n'])))

end StarReport.Document
