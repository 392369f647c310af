import AspectForms.Component.Columns
import AspectForms.Component.Source
import AspectForms.Json.Printer

/-!
The two ways to show many objects at once: a table with one column per shown value, and a list of cards
with one line per shown value.
-/

namespace AspectForms

namespace View

/-- The type of the objects shown. -/
def rowName (stem : String) : String := Text.upperCamelCase stem ++ "Row"

/-- The modules that the options ask for. -/
def optionModules (config : Config) : List String :=
  Component.when config.pagination ["MatPaginatorModule"] ++
  Component.when config.commandBar ["MatToolbarModule", "MatFormFieldModule", "MatInputModule"]

def commandBarImports (config : Config) : List String :=
  Component.when config.commandBar
    [Component.importLine ["MatFormFieldModule"] "@angular/material/form-field",
      Component.importLine ["MatInputModule"] "@angular/material/input",
      Component.importLine ["MatToolbarModule"] "@angular/material/toolbar"]

/-- The declaration of the type of the objects shown. -/
def rowType (stem : String) (fields : List Field) : String :=
  "export type " ++ rowName stem ++ " = " ++ objectType fields ++ ";"

/-- The title, and below it the command bar. -/
def head (config : Config) (title : String) : List String :=
  ["<h2>" ++ title ++ "</h2>"] ++
  Component.when config.commandBar
    ["<mat-toolbar class=\"command-bar\">",
      "  <mat-form-field appearance=\"outline\">",
      "    <mat-label>Search</mat-label>",
      "    <input matInput (keyup)=\"applyFilter($event)\" />",
      "  </mat-form-field>",
      "</mat-toolbar>"]

end View

namespace Table

def code (config : Config) (stem : String) (fields : List Field) (columns : List Column) :
    List String :=
  let row := View.rowName stem
  [Component.importLine
      (Component.when config.pagination ["AfterViewInit"] ++ ["Component", "Input", "OnChanges"] ++
        Component.when config.pagination ["ViewChild"])
      "@angular/core",
    Component.importLine ["CommonModule"] "@angular/common",
    Component.importLine ["MatTableDataSource", "MatTableModule"] "@angular/material/table"] ++
  Component.when config.pagination
    [Component.importLine ["MatPaginator", "MatPaginatorModule"] "@angular/material/paginator"] ++
  View.commandBarImports config ++
  ["", View.rowType stem fields, ""] ++
  Component.decorator (selector [stem]) stem
    (["CommonModule", "MatTableModule"] ++ View.optionModules config) ++
  ["export class " ++ className [stem] ++ " implements OnChanges" ++
      (if config.pagination then ", AfterViewInit" else "") ++ " \x7b",
    "  @Input() data: " ++ row ++ "[] = [];",
    "  readonly displayedColumns: string[] = " ++
      Json.text (.array (columns.map fun c => .string c.key)) ++ ";",
    "  readonly dataSource = new MatTableDataSource<" ++ row ++ ">([]);",
    ""] ++
  Component.when config.pagination ["  @ViewChild(MatPaginator) paginator?: MatPaginator;", ""] ++
  ["  constructor() \x7b",
    "    this.dataSource.filterPredicate = (row, filter) => JSON.stringify(row).toLowerCase().includes(filter);",
    "  \x7d",
    "",
    "  ngOnChanges(): void \x7b",
    "    this.dataSource.data = this.data;",
    "  \x7d"] ++
  Component.when config.pagination
    ["",
      "  ngAfterViewInit(): void \x7b",
      "    if (this.paginator) \x7b",
      "      this.dataSource.paginator = this.paginator;",
      "    \x7d",
      "  \x7d"] ++
  Component.when config.commandBar
    ["",
      "  applyFilter(event: Event): void \x7b",
      "    this.dataSource.filter = (event.target as HTMLInputElement).value.trim().toLowerCase();",
      "  \x7d"] ++
  ["\x7d"]

def markup (config : Config) (title : String) (columns : List Column) : List String :=
  View.head config title ++
  ["<table mat-table [dataSource]=\"dataSource\">"] ++
  (columns.flatMap fun c =>
    ["  <ng-container matColumnDef=\"" ++ c.key ++ "\">",
      "    <th mat-header-cell *matHeaderCellDef>" ++ c.header ++ "</th>",
      "    <td mat-cell *matCellDef=\"let row\">" ++ c.cell ++ "</td>",
      "  </ng-container>"]) ++
  ["  <tr mat-header-row *matHeaderRowDef=\"displayedColumns\"></tr>",
    "  <tr mat-row *matRowDef=\"let row; columns: displayedColumns\"></tr>",
    "</table>"] ++
  Component.when config.pagination
    ["<mat-paginator [pageSizeOptions]=\"[5, 10, 25]\" showFirstLastButtons></mat-paginator>"]

def component (config : Config) (stem title : String) (fields : List Field) : Component :=
  let columns := resolveColumns config fields
  ⟨"", stem, code config stem fields columns, markup config title columns⟩

end Table

namespace Card

def code (config : Config) (stem : String) (fields : List Field) : List String :=
  let row := View.rowName stem
  [Component.importLine ["Component", "Input", "OnChanges"] "@angular/core",
    Component.importLine ["CommonModule"] "@angular/common",
    Component.importLine ["MatCardModule"] "@angular/material/card"] ++
  Component.when config.pagination
    [Component.importLine ["MatPaginatorModule", "PageEvent"] "@angular/material/paginator"] ++
  View.commandBarImports config ++
  ["", View.rowType stem fields, ""] ++
  Component.decorator (selector [stem]) stem
    (["CommonModule", "MatCardModule"] ++ View.optionModules config) ++
  ["export class " ++ className [stem] ++ " implements OnChanges \x7b",
    "  @Input() data: " ++ row ++ "[] = [];",
    "  filter = '';",
    "  pageIndex = 0;",
    "  pageSize = 10;",
    "  visible: " ++ row ++ "[] = [];",
    "",
    "  get filtered(): " ++ row ++ "[] \x7b",
    "    if (!this.filter) \x7b",
    "      return this.data;",
    "    \x7d",
    "    return this.data.filter((row) => JSON.stringify(row).toLowerCase().includes(this.filter));",
    "  \x7d",
    "",
    "  ngOnChanges(): void \x7b",
    "    this.refresh();",
    "  \x7d",
    ""] ++
  Component.when config.commandBar
    ["  applyFilter(event: Event): void \x7b",
      "    this.filter = (event.target as HTMLInputElement).value.trim().toLowerCase();",
      "    this.pageIndex = 0;",
      "    this.refresh();",
      "  \x7d",
      ""] ++
  Component.when config.pagination
    ["  onPage(event: PageEvent): void \x7b",
      "    this.pageIndex = event.pageIndex;",
      "    this.pageSize = event.pageSize;",
      "    this.refresh();",
      "  \x7d",
      ""] ++
  ["  private refresh(): void \x7b"] ++
  (if config.pagination then
    ["    const start = this.pageIndex * this.pageSize;",
      "    this.visible = this.filtered.slice(start, start + this.pageSize);"]
  else ["    this.visible = this.filtered;"]) ++
  ["  \x7d", "\x7d"]

def markup (config : Config) (title : String) (columns : List Column) : List String :=
  View.head config title ++
  ["<div class=\"cards\">",
    "  @for (row of visible; track $index) \x7b",
    "    <mat-card class=\"card\">",
    "      <mat-card-content>"] ++
  (columns.flatMap fun c =>
    ["        <div class=\"card-field\">",
      "          <span class=\"card-label\">" ++ c.header ++ ":</span>",
      "          <span class=\"card-value\">" ++ c.cell ++ "</span>",
      "        </div>"]) ++
  ["      </mat-card-content>",
    "    </mat-card>",
    "  \x7d",
    "</div>"] ++
  Component.when config.pagination
    ["<mat-paginator",
      "  [length]=\"filtered.length\"",
      "  [pageSize]=\"pageSize\"",
      "  [pageIndex]=\"pageIndex\"",
      "  [pageSizeOptions]=\"[5, 10, 25]\"",
      "  (page)=\"onPage($event)\"",
      "></mat-paginator>"]

def component (config : Config) (stem title : String) (fields : List Field) : Component :=
  let columns := resolveColumns config fields
  ⟨"", stem, code config stem fields, markup config title columns⟩

end Card

end AspectForms
