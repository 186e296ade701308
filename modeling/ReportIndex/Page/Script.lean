/-!
Contract: the two scripts of a page.

Owns:
- the script that applies a stored theme before the body is painted;
- the script that makes the theme button switch and store the theme.

Does not own: the button itself.
-/

namespace ReportIndex.Page

/-- Applies a stored theme to the document's root. -/
def restoreThemeScript : String := "
(() => \x7b
  const stored = localStorage.getItem('reports-theme');
  const root = document.documentElement;
  if (stored === 'dark' || stored === 'light') \x7b
    root.classList.remove('dark', 'light');
    root.classList.add(stored);
  \x7d
\x7d)();
"

/-- Makes the theme button switch the theme and store it. -/
def toggleThemeScript : String := "
(() => \x7b
  const root = document.documentElement;
  const isDark = () => root.classList.contains('dark') ||
      (!root.classList.contains('light') &&
       window.matchMedia('(prefers-color-scheme: dark)').matches);

  const toggle = document.querySelector('[data-role=\"theme-toggle\"]');
  if (!toggle) return;

  toggle.addEventListener('click', () => \x7b
    const next = isDark() ? 'light' : 'dark';
    root.classList.remove('dark', 'light');
    root.classList.add(next);
    localStorage.setItem('reports-theme', next);
  \x7d);
\x7d)();
"

end ReportIndex.Page
