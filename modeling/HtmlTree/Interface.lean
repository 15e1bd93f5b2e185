namespace HtmlTree

-- The names under which the parts of the library are offered to those who use it, in the order of
-- their characters.
def offeredNames : List String :=
  ["ElementNode", "FragmentContext", "HierarchyRequestError", "JustDOM", "ParseError",
   "SimpleDomNode", "StrictModeError", "TemplateNode", "TextNode", "TreeError",
   "TreeInconsistencyError", "ancestors", "append", "child_nodes_include_template", "clone_node",
   "comment", "default_child_nodes", "depth_first", "depth_first_including_templates",
   "depth_first_reversed", "document", "element", "fragment", "get_attribute", "get_direct_text",
   "get_text_content", "has_attribute", "insert_before", "insert_node", "node_walk",
   "node_walk_all", "node_walk_all_prior", "node_walk_ancestors", "node_walk_prior", "normalize",
   "parse", "parse_fragment", "predicates", "previous_siblings", "prior", "prior_including_node",
   "query", "query_all", "query_all_prior", "query_prior", "remove", "remove_attribute", "replace",
   "serialize", "set_attribute", "set_text_content", "text", "to_html", "tree_map"]

end HtmlTree
