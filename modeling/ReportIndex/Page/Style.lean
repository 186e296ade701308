/-!
Contract: the style sheet of a page.

Owns:
- the two palettes, the layout of the grid, and the rule which illustration of
  a card is seen: the dark one only where the document is dark, the light one
  only where it is not.

Does not own: which classes the page's elements have.

A document without a theme class follows the preference of the browser.
-/

namespace ReportIndex.Page

/-- The whole style sheet. -/
def styleSheet : String := "
:root \x7b
    --bg: #ffffff;
    --bg-card: #f7f8fa;
    --bg-card-hover: #eef1f6;
    --text-bright: #11151c;
    --text-dim: #5b6472;
    --border-visible: rgba(17, 21, 28, 0.12);
    --accent: #4f81e1;
    --font-sans: system-ui, -apple-system, 'Segoe UI', sans-serif;
    --container-max: 1200px;
\x7d

.dark \x7b
    --bg: #0f1115;
    --bg-card: #161a22;
    --bg-card-hover: #1c2029;
    --text-bright: #e9ecf5;
    --text-dim: #9ca3af;
    --border-visible: rgba(233, 236, 245, 0.12);
\x7d

@media (prefers-color-scheme: dark) \x7b
    :root:not(.light) \x7b
        --bg: #0f1115;
        --bg-card: #161a22;
        --bg-card-hover: #1c2029;
        --text-bright: #e9ecf5;
        --text-dim: #9ca3af;
        --border-visible: rgba(233, 236, 245, 0.12);
    \x7d
\x7d

*, *::before, *::after \x7b
    box-sizing: border-box;
\x7d

body \x7b
    font-family: var(--font-sans);
    background: var(--bg);
    color: var(--text-bright);
    line-height: 1.5;
    margin: 0;
\x7d

.container \x7b
    max-width: var(--container-max);
    margin: 0 auto;
    padding: 32px 24px 80px;
\x7d

/* Header */
.page-header \x7b
    display: flex;
    align-items: center;
    justify-content: space-between;
    gap: 12px;
    margin-bottom: 32px;
\x7d

.page-title \x7b
    font-size: 28px;
    margin: 0;
\x7d

.version-badge \x7b
    font-size: 12px;
    padding: 2px 8px;
    border-radius: 999px;
    border: 1px solid var(--border-visible);
    color: var(--text-dim);
    margin-left: 12px;
    vertical-align: middle;
\x7d

.theme-toggle \x7b
    background: transparent;
    border: 1px solid var(--border-visible);
    border-radius: 6px;
    color: var(--text-dim);
    padding: 6px;
    cursor: pointer;
    line-height: 0;
\x7d

.theme-toggle:hover \x7b
    color: var(--text-bright);
\x7d

.theme-icon-dark \x7b display: none; \x7d
.dark .theme-icon-light \x7b display: none; \x7d
.dark .theme-icon-dark \x7b display: inline; \x7d

/* Grid */
.reports-grid \x7b
    display: grid;
    grid-template-columns: repeat(auto-fill, minmax(280px, 1fr));
    gap: 20px;
\x7d

.report-card \x7b
    display: flex;
    flex-direction: column;
    background: var(--bg-card);
    border: 1px solid var(--border-visible);
    border-radius: 12px;
    overflow: hidden;
    color: inherit;
    text-decoration: none;
    transition: background 0.15s, border-color 0.15s;
\x7d

.report-card:hover \x7b
    background: var(--bg-card-hover);
    border-color: var(--accent);
\x7d

.report-card-media \x7b
    aspect-ratio: 16 / 9;
    border-bottom: 1px solid var(--border-visible);
    display: flex;
    align-items: center;
    justify-content: center;
    padding: 12px;
\x7d

.report-card-media img \x7b
    max-width: 100%;
    max-height: 100%;
\x7d

.report-card-body \x7b
    padding: 16px;
\x7d

.report-card-label \x7b
    font-size: 16px;
    font-weight: 600;
    margin: 0 0 6px;
\x7d

.report-card-description \x7b
    font-size: 13px;
    color: var(--text-dim);
    margin: 0;
\x7d

/* Themed illustrations: both rendered, one visible */
.graph-dark \x7b display: none; \x7d
.dark .graph-light \x7b display: none; \x7d
.dark .graph-dark \x7b display: block; \x7d

@media (prefers-color-scheme: dark) \x7b
    :root:not(.light) .graph-light \x7b display: none; \x7d
    :root:not(.light) .graph-dark \x7b display: block; \x7d
    :root:not(.light) .theme-icon-light \x7b display: none; \x7d
    :root:not(.light) .theme-icon-dark \x7b display: inline; \x7d
\x7d

.reports-empty \x7b
    color: var(--text-dim);
    font-size: 14px;
\x7d

@media (max-width: 640px) \x7b
    .container \x7b padding: 20px 16px 48px; \x7d
    .reports-grid \x7b grid-template-columns: 1fr; \x7d
\x7d
"

end ReportIndex.Page
