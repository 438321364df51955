/-
This file names the languages of the bundled grammars.
-/

namespace Listings.Bundle

/-- How many grammars are bundled. -/
def grammarCount : Nat := 75

/-- The name of every grammar, followed by its file extensions. -/
def languages : List String := [
    "plain text", "txt", "asp", "asa", "html (asp)", "asp", "actionscript", "as", "applescript",
    "applescript", "script editor", "batch file", "bat", "cmd", "nant build file", "build", "c#",
    "cs", "csx", "c++", "cpp", "cc", "cp", "cxx", "c++", "C", "h", "hh", "hpp", "hxx", "h++",
    "inl", "ipp", "c", "c", "h", "css", "css", "css.erb", "css.liquid", "clojure", "clj", "d",
    "d", "di", "diff", "diff", "patch", "erlang", "erl", "hrl", "Emakefile", "emakefile",
    "html (erlang)", "yaws", "go", "go", "graphviz (dot)", "dot", "DOT", "gv", "groovy", "groovy",
    "gvy", "gradle", "html", "html", "htm", "shtml", "xhtml", "inc", "tmpl", "tpl", "haskell",
    "hs", "literate haskell", "lhs", "java server page (jsp)", "jsp", "java", "java", "bsh",
    "javadoc", "java properties", "properties", "json", "json", "sublime-settings",
    "sublime-menu", "sublime-keymap", "sublime-mousemap", "sublime-theme", "sublime-build",
    "sublime-project", "sublime-completions", "sublime-commands", "sublime-macro",
    "sublime-color-scheme", "javascript", "js", "htc", "regular expressions (javascript)",
    "bibtex", "bib", "latex log", "latex", "tex", "ltx", "tex", "sty", "cls", "lisp", "lisp",
    "cl", "clisp", "l", "mud", "el", "scm", "ss", "lsp", "fasl", "lua", "lua", "make output",
    "makefile", "make", "GNUmakefile", "makefile", "Makefile", "OCamlMakefile", "mak", "mk",
    "markdown", "md", "mdown", "markdown", "markdn", "multimarkdown", "matlab", "matlab", "ocaml",
    "ml", "mli", "ocamllex", "mll", "ocamlyacc", "mly", "camlp4", "objective-c++", "mm", "M", "h",
    "objective-c", "m", "h", "php source", "php", "php", "php3", "php4", "php5", "php7", "phps",
    "phpt", "phtml", "pascal", "pas", "p", "dpr", "perl", "pl", "pm", "pod", "t", "PL", "python",
    "py", "py3", "pyw", "pyi", "pyx", "pyx.in", "pxd", "pxd.in", "pxi", "pxi.in", "rpy", "cpy",
    "SConstruct", "Sconstruct", "sconstruct", "SConscript", "gyp", "gypi", "Snakefile", "wscript",
    "regular expressions (python)", "r console", "r", "R", "r", "s", "S", "Rprofile",
    "rd (r documentation)", "rd", "html (rails)", "rails", "rhtml", "erb", "html.erb",
    "javascript (rails)", "js.erb", "ruby haml", "haml", "sass", "ruby on rails", "rxml",
    "builder", "sql (rails)", "erbsql", "sql.erb", "regular expression", "re", "restructuredtext",
    "rst", "rest", "ruby", "rb", "Appfile", "Appraisals", "Berksfile", "Brewfile", "capfile",
    "cgi", "Cheffile", "config.ru", "Deliverfile", "Fastfile", "fcgi", "Gemfile", "gemspec",
    "Guardfile", "irbrc", "jbuilder", "podspec", "prawn", "rabl", "rake", "Rakefile", "Rantfile",
    "rbx", "rjs", "ruby.rail", "Scanfile", "simplecov", "Snapfile", "thor", "Thorfile",
    "Vagrantfile", "cargo build results", "rust", "rs", "sql", "sql", "ddl", "dml", "scala",
    "scala", "sbt", "bourne again shell (bash)", "sh", "bash", "zsh", "fish", ".bash_aliases",
    ".bash_completions", ".bash_functions", ".bash_login", ".bash_logout", ".bash_profile",
    ".bash_variables", ".bashrc", ".profile", ".textmate_init", "shell-unix-generic",
    "commands-builtin-shell-bash", "html (tcl)", "adp", "tcl", "tcl", "textile", "textile", "xml",
    "xml", "xsd", "xslt", "tld", "dtml", "rss", "opml", "svg", "yaml", "yaml", "yml",
    "sublime-syntax"]

end Listings.Bundle
