/-!
# The guide to graphs and filters

The reference text that a server gives to those who ask it.
-/

namespace GraphQuery
namespace Guide

def lines : List String :=
  ["# graphsift Data Model",
    "",
    "## Nodes",
    "- **id**: string or integer, unique",
    "- **label**, **type**: optional strings",
    "- **properties**: key-value attributes",
    "",
    "## Edges",
    "- **id**, **source**, **target**: source and target are node ids",
    "- **label**, **type**, **properties**: as for nodes",
    "",
    "## Search",
    "Every node and edge is indexed as one text: label, type, id, then each",
    "property key and value. Fuzzy search matches when the query characters",
    "appear in that text in order.",
    "",
    "## Filter configs",
    "```",
    "\x7b\"nodes\": \x7b...\x7d, \"edges\": \x7b...\x7d, \"cascade_edges\": true\x7d",
    "```",
    "Node fields: type, label, text, id, properties, connections, degree.",
    "Edge fields: type, label, text, id, properties, source, target.",
    "A criterion is a literal, a list (membership), or",
    "\x7b\"operator\": ..., \"value\": ...\x7d. Operators: eq, ne, gt, gte, lt, lte,",
    "in, nin, between, contains, startsWith, endsWith, regex.",
    "Degree criteria: \x7b\"type\": \"in\" | \"out\" | \"total\", \"operator\": ..., \"value\": ...\x7d.",
    "With cascade_edges, edges are kept only if both endpoints survive.",
    "",
    "## Filter sets",
    "Named configs that can be toggled. Active sets compose in creation",
    "order, each filtering the output of the previous one."]

def text : String := "\n".intercalate lines ++ "\n"

end Guide
end GraphQuery
