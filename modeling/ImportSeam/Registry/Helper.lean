/-!
# The helper module

Instrumented modules import the class of their registry from a helper module.  Its operations behave
like those of `Registry`.

## Main definitions

* `helperSource` — the source code of the helper module.
-/

namespace ImportSeam

/-- The lines of the helper module. -/
def helperLines : List String := [
  "// Runtime support for modules rewritten by mockable-js. Each rewritten module creates one",
  "// ImportMap, exported as `$imports`, and reads every mockable import through it.",
  "",
  "const RESERVED = new Set([\"$add\", \"$mock\", \"$restore\", \"$meta\"]);",
  "",
  "// Aliases bound to a whole module rather than one of its exports.",
  "const WHOLE_MODULE = new Set([\"*\", \"<CJS>\"]);",
  "",
  "function isObject(value) \x7b",
  "  return typeof value === \"object\" && value !== null;",
  "\x7d",
  "",
  "export class ImportMap \x7b",
  "  /**",
  "   * @param \x7bObject<string, [string, string, any]>\x7d imports - Alias to",
  "   *   `[path, symbol, value]`, for the imports known when the module starts.",
  "   */",
  "  constructor(imports = \x7b\x7d) \x7b",
  "    // Alias to `[path, symbol, value]` as registered. Inspectable, but not a stable interface.",
  "    Object.defineProperty(this, \"$meta\", \x7bvalue: \x7b\x7d, enumerable: false\x7d);",
  "    for (const [alias, [path, symbol, value]] of Object.entries(imports)) \x7b",
  "      this.$add(alias, path, symbol, value);",
  "    \x7d",
  "  \x7d",
  "",
  "  /** Registers an import that was bound after the map was created. */",
  "  $add(alias, path, symbol, value) \x7b",
  "    if (RESERVED.has(alias)) \x7b",
  "      return;",
  "    \x7d",
  "    this.$meta[alias] = [path, symbol, value];",
  "    this[alias] = value;",
  "  \x7d",
  "",
  "  /**",
  "   * Replaces imports. `overlay` maps a module path to an object of replacement exports, or to a",
  "   * function that replaces the default export. It can also be a function, called with the path,",
  "   * symbol and current value of every import, that returns a replacement or `null` to leave the",
  "   * import alone.",
  "   *",
  "   * Throws without changing anything if the overlay names an export this module doesn't import.",
  "   */",
  "  $mock(overlay) \x7b",
  "    if (typeof overlay === \"function\") \x7b",
  "      const selector = overlay;",
  "      overlay = \x7b\x7d;",
  "      for (const [alias, [path, symbol]] of Object.entries(this.$meta)) \x7b",
  "        const value = selector(path, symbol, this[alias]);",
  "        if (value === null || value === undefined) \x7b",
  "          continue;",
  "        \x7d",
  "        overlay[path] = overlay[path] || \x7b\x7d;",
  "        overlay[path][symbol] = value;",
  "      \x7d",
  "    \x7d",
  "",
  "    const assignments = [];",
  "    for (const [path, replacement] of Object.entries(overlay)) \x7b",
  "      const exports = typeof replacement === \"function\" ? \x7bdefault: replacement\x7d : replacement;",
  "      let wholeModuleMatched = false;",
  "      for (const [alias, [aliasPath, symbol]] of Object.entries(this.$meta)) \x7b",
  "        if (aliasPath === path && WHOLE_MODULE.has(symbol)) \x7b",
  "          assignments.push([alias, exports]);",
  "          wholeModuleMatched = true;",
  "        \x7d",
  "      \x7d",
  "      for (const [name, value] of Object.entries(exports)) \x7b",
  "        let matched = wholeModuleMatched;",
  "        for (const [alias, [aliasPath, symbol]] of Object.entries(this.$meta)) \x7b",
  "          if (aliasPath === path && symbol === name) \x7b",
  "            assignments.push([alias, value]);",
  "            matched = true;",
  "          \x7d",
  "        \x7d",
  "        if (!matched) \x7b",
  "          throw new Error(`module does not import \"$\x7bname\x7d\" from \"$\x7bpath\x7d\"`);",
  "        \x7d",
  "      \x7d",
  "    \x7d",
  "",
  "    for (const [alias, value] of assignments) \x7b",
  "      this[alias] = value;",
  "    \x7d",
  "  \x7d",
  "",
  "  /**",
  "   * Puts back the registered values. With no argument every import is restored; otherwise only",
  "   * those selected by `\x7bpath: true\x7d` or `\x7bpath: \x7bsymbol: true\x7d\x7d`.",
  "   */",
  "  $restore(selection) \x7b",
  "    for (const [alias, [path, symbol, value]] of Object.entries(this.$meta)) \x7b",
  "      if (selection === undefined || selects(selection, path, symbol)) \x7b",
  "        this[alias] = value;",
  "      \x7d",
  "    \x7d",
  "  \x7d",
  "\x7d",
  "",
  "function selects(selection, path, symbol) \x7b",
  "  const target = selection[path];",
  "  return target === true || (isObject(target) && target[symbol] === true);",
  "\x7d"]

/-- The source code of the helper module. -/
def helperSource : String := String.join (helperLines.map (· ++ "\n"))

end ImportSeam
