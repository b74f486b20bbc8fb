import ModuleBundler.BuildError
import ModuleBundler.Bundle.Slots
import ModuleBundler.Script.Reader

/-!
The program that every bundle is: a loader for numbered modules, applied to the table of modules
and told to load one of them. The text of the loader is fixed. Two names in it stand for the table
and for the number; it is read like any other script, and in the tree the names give way to
expressions. So the table never passes through a text, and nothing in a module's code can be
mistaken for a slot.

A module is put into the cache before it runs, so when modules require each other in a circle the
one that runs already is given out as far as it has come; if it fails, it leaves the cache.
-/

set_option autoImplicit false

namespace ModuleBundler.Bundle

open Script

/-- The version of the loader. -/
def runtimeVersion : Nat := 1

/-- The comment that a bundle begins with. -/
def banner : String := "/* pumice runtime v" ++ toString runtimeVersion ++ " */\n"

/-- The text of the loader, with names where the table and the number go. -/
def loaderText : String := "(function (modules) \x7b
    var cache = \x7b\x7d;
    function require(id) \x7b
        var cached = cache[id];
        if (cached !== undefined) \x7b
            return cached.exports;
        \x7d
        var record = modules[id];
        var factory = record[0];
        var mapping = record[1];
        var module = cache[id] = \x7b exports: \x7b\x7d, loaded: false \x7d;
        function localRequire(specifier) \x7b
            if (!Object.prototype.hasOwnProperty.call(mapping, specifier)) \x7b
                throw new Error(\"Cannot find module '\" + specifier + \"'\");
            \x7d
            return require(mapping[specifier]);
        \x7d
        try \x7b
            factory(localRequire, module, module.exports);
        \x7d catch (err) \x7b
            delete cache[id];
            throw err;
        \x7d
        module.loaded = true;
        return module.exports;
    \x7d
    return require(__pumice_entry__);
\x7d)(__pumice_modules__);
"

/-- The path that messages about the text of the loader name. -/
def loaderPath : Path := Path.ofString "pumice-runtime.js"

/-- The loader as it is read, with its slots still open. -/
def template : Except BuildError Program :=
  (Program.ofText loaderText.toList).mapError (.syntaxError loaderPath)

/-- A program with both slots filled. -/
def fillSlots (unfilled : Program) (modules entry : Expr) : Except BuildError Program :=
  let (body, left) := (fillAll unfilled.body).run ⟨some modules, some entry⟩
  if left.isEmpty then .ok { unfilled with body } else .error .missingSlot

/-- The loader applied to a table of modules, with the number of the module to load. -/
def instantiate (modules entry : Expr) : Except BuildError Program := do
  fillSlots (← template) modules entry

end ModuleBundler.Bundle
